import Mathlib.Data.List.Flatten
import SchemaBeans.Proofs.Text.Percent

/-! How many characters encoded text stands for.

Slashes apart, decoded text has at most as many characters as the text it was decoded from, and fewer if
there was an escape in it (`Percent.weight_le`, `Percent.weight_lt`). -/

namespace SchemaBeans.Text

/-- The number of characters other than slashes. -/
def bulk (cs : List Char) : Nat := cs.countP (· != '/')

@[simp] theorem bulk_nil : bulk [] = 0 := rfl

theorem bulk_append (cs ds : List Char) : bulk (cs ++ ds) = bulk cs + bulk ds := List.countP_append

theorem bulk_cons (c : Char) (cs : List Char) : bulk (c :: cs) = (if c = '/' then 0 else 1) + bulk cs := by
  rw [bulk, List.countP_cons, bulk]
  by_cases hc : c = '/' <;> simp [hc, Nat.add_comm]

theorem bulk_le {cs ds : List Char} (h : cs.Sublist ds) : bulk cs ≤ bulk ds := h.countP_le

theorem bulk_intercalate (ws : List (List Char)) : bulk (List.intercalate ['/'] ws) = bulk ws.flatten := by
  induction ws with
  | nil => rfl
  | cons w ws ih =>
    cases ws with
    | nil => simp
    | cons next ws =>
      have hslash : bulk ['/'] = 0 := rfl
      rw [List.intercalate_cons_cons, bulk_append, bulk_append, hslash, ih, Nat.add_zero, ← bulk_append]
      rfl

theorem bulk_lt {cs ds : List Char} (h : cs.Sublist ds) {c : Char} (hslash : c ≠ '/') (hds : c ∈ ds) (hcs : c ∉ cs) :
    bulk cs < bulk ds := by
  induction h with
  | slnil => cases hds
  | cons d h ih =>
    rw [bulk_cons]
    rcases List.mem_cons.mp hds with rfl | hds
    · have hle := bulk_le h
      rw [if_neg hslash]
      omega
    · exact Nat.lt_of_lt_of_le (ih hds hcs) (Nat.le_add_left _ _)
  | cons_cons d h ih =>
    obtain ⟨hne, hcs⟩ := not_or.mp (mt List.mem_cons.mpr hcs)
    rw [bulk_cons, bulk_cons]
    exact Nat.add_lt_add_left (ih ((List.mem_cons.mp hds).resolve_left hne) hcs) _

theorem bulk_dropWhile_lt {p : Char → Bool} {c : Char} (hslash : c ≠ '/') (hc : p c = true) (cs : List Char) :
    bulk ((c :: cs).dropWhile p) < bulk (c :: cs) := by
  have hle := bulk_le (List.dropWhile_sublist p (l := cs))
  rw [List.dropWhile_cons_of_pos hc, bulk_cons, if_neg hslash]
  omega

theorem bulk_reverse (cs : List Char) : bulk cs.reverse = bulk cs := List.countP_reverse

theorem trimEnds_sublist (p : Char → Bool) (cs : List Char) : (trimEnds p cs).Sublist (cs.dropWhile p) := by
  simpa [trimEnds] using (List.dropWhile_sublist p (l := (cs.dropWhile p).reverse)).reverse

theorem bulk_trimEnds_lt {p : Char → Bool} {c : Char} {cs : List Char} (hslash : c ≠ '/') (hc : p c = true)
    (h : cs.head? = some c ∨ cs.getLast? = some c) : bulk (trimEnds p cs) < bulk cs := by
  rcases h with h | h
  · obtain ⟨rest, rfl⟩ := List.head?_eq_some_iff.mp h
    exact Nat.lt_of_le_of_lt (bulk_le (trimEnds_sublist p _)) (bulk_dropWhile_lt hslash hc rest)
  · obtain ⟨front, rfl⟩ := List.getLast?_eq_some_iff.mp h
    rw [trimEnds, bulk_reverse, List.dropWhile_append]
    split
    · rw [List.dropWhile_cons_of_pos hc, bulk_append, bulk_cons, if_neg hslash]
      simp
    · have hlt := bulk_dropWhile_lt hslash hc (front.dropWhile p).reverse
      have hfront := bulk_le (List.dropWhile_sublist p (l := front))
      rw [List.reverse_append, List.reverse_singleton, List.singleton_append]
      rw [bulk_cons, bulk_reverse] at hlt
      rw [bulk_append, bulk_cons, bulk_nil]
      omega

namespace Percent
open Utf8 (Partial Wide read)

/-- The number of characters other than slashes after decoding. -/
def weight (cs : List Char) : Nat := bulk (read none (octets cs))

theorem weight_nil : weight [] = 0 := rfl

theorem weight_encodeChars {set : Char → Bool} (hset : KeepsEscapes set) (cs : List Char) :
    weight (encodeChars set cs) = weight cs := by
  rw [weight, octets_encodeChars hset, weight]

/-- A character of ASCII that no escape is made of. -/
def IsPlainMark (c : Char) : Prop := c.toNat < 0x80 ∧ c ≠ '%' ∧ hexValue? c = none

instance (c : Char) : Decidable (IsPlainMark c) := inferInstanceAs (Decidable (_ ∧ _ ∧ _))

theorem weight_append_cons {c : Char} (hc : IsPlainMark c) (xs ys : List Char) :
    weight (xs ++ c :: ys) = weight xs + ((if c = '/' then 0 else 1) + weight ys) := by
  obtain ⟨hascii, hpercent, hdigit⟩ := hc
  have hbyte : (UInt8.ofNat c.toNat).toNat = c.toNat := Utf8.toNat_ofNat (by omega)
  rw [weight, octets_append_cons hdigit, octets_cons hpercent, Utf8.encodeChar_ascii hascii, List.singleton_append,
    Utf8.read_append_whole (by omega) _ _ none (by simp), hbyte, Char.ofNat_toNat, bulk_append, bulk_cons]
  rfl

theorem weight_cons {c : Char} (hc : IsPlainMark c) (cs : List Char) : weight (c :: cs) = (if c = '/' then 0 else 1) + weight cs := by
  simpa [weight_nil] using weight_append_cons hc [] cs

theorem weight_append {ys : List Char} (h : ∀ c, ys.head? = some c → IsPlainMark c) (xs : List Char) :
    weight (xs ++ ys) = weight xs + weight ys := by
  cases ys with
  | nil => rw [List.append_nil, weight_nil, Nat.add_zero]
  | cons c ys => rw [weight_append_cons (h c rfl), weight_cons (h c rfl)]

/-- What a character under way counts for, should it not be finished. -/
def debt : Option Partial → Nat
  | none => 0
  | some _ => 1

theorem bulk_replacement (cs : List Char) : bulk (Utf8.replacement :: cs) = 1 + bulk cs := bulk_cons _ _

theorem bulk_read_encodeChar {state : Option Partial} (hstate : ∀ p, state = some p → Wide p) (c : Char) (bytes : List UInt8) :
    bulk (read state (String.utf8EncodeChar c ++ bytes)) = debt state + (bulk [c] + bulk (read none bytes)) := by
  cases state with
  | none => rw [Utf8.read_encodeChar, debt, Nat.zero_add, ← bulk_append, List.singleton_append]
  | some p => rw [Utf8.read_some_encodeChar (hstate p rfl), bulk_replacement, debt, ← bulk_append, List.singleton_append]

theorem bulk_read_first (b : UInt8) {bytes : List UInt8} {n : Nat}
    (h : ∀ next, (∀ p, next = some p → Wide p) → bulk (read next bytes) ≤ debt next + n) :
    bulk (read none (b :: bytes)) ≤ 1 + n := by
  have hnone := h none (by simp)
  rw [debt] at hnone
  rw [Utf8.read]
  split
  · rw [bulk_cons]
    split <;> omega
  · rename_i p hp
    refine h (some p) fun q hq => ?_
    cases hq
    exact Wide.of_first hp
  · rw [bulk_replacement]
    omega

theorem bulk_read_cons {state : Option Partial} (hstate : ∀ p, state = some p → Wide p) (b : UInt8) {bytes : List UInt8} {n : Nat}
    (h : ∀ next, (∀ p, next = some p → Wide p) → bulk (read next bytes) ≤ debt next + n) :
    bulk (read state (b :: bytes)) ≤ debt state + (1 + n) := by
  have hfirst := bulk_read_first b h
  have hnone := h none (by simp)
  rw [debt] at hnone
  cases state with
  | none =>
    rw [debt]
    omega
  | some p =>
    by_cases hin : p.low ≤ b.toNat ∧ b.toNat ≤ p.high
    · simp only [Utf8.read, Bool.and_eq_true, decide_eq_true_eq, hin, and_self, if_true, debt]
      split
      · rw [bulk_cons]
        split <;> omega
      -- The character is still incomplete, and the debt stays the same.
      · have hmore := h (some ⟨p.value * 0x40 + b.toNat % 0x40, p.missing - 1, 0x80, 0xBF⟩) fun q hq => by
          cases hq
          exact (hstate p rfl).more hin
        rw [debt] at hmore
        omega
    · rw [Utf8.read_broken hin, bulk_replacement, debt]
      omega

theorem bulk_read_octets (cs : List Char) : ∀ state, (∀ p, state = some p → Wide p) →
    bulk (read state (octets cs)) ≤ debt state + bulk cs ∧
      (¬NoEscape cs → bulk (read state (octets cs)) < debt state + bulk cs) := by
  have hnone : ∀ p, (none : Option Partial) = some p → Wide p := by simp
  induction cs using tokenInduction with
  | nil =>
    have hempty : NoEscape [] := fun rest hrest => by simp at hrest
    refine fun state _ => ⟨?_, fun h => absurd hempty h⟩
    cases state with
    | none => exact Nat.le_refl 0
    | some p => exact Nat.le_refl 1
  | plain c rest hc ih =>
    intro state hstate
    obtain ⟨hle, hlt⟩ := ih none hnone
    rw [debt, Nat.zero_add] at hle hlt
    have hbulk : bulk (c :: rest) = bulk [c] + bulk rest := bulk_append [c] rest
    rw [octets_cons hc, bulk_read_encodeChar hstate, hbulk]
    refine ⟨by omega, fun hescape => ?_⟩
    have := hlt fun hrest => hescape (hrest.cons fun heq => absurd heq hc)
    omega
  | lone rest hrest ih =>
    intro state hstate
    obtain ⟨hle, hlt⟩ := ih none hnone
    rw [debt, Nat.zero_add] at hle hlt
    have hpercent : octets ('%' :: rest) = String.utf8EncodeChar '%' ++ octets rest := octets_percent hrest
    have hbulk : bulk ('%' :: rest) = bulk ['%'] + bulk rest := bulk_append ['%'] rest
    rw [hpercent, bulk_read_encodeChar hstate, hbulk]
    refine ⟨by omega, fun hescape => ?_⟩
    have := hlt fun hno => hescape (hno.cons fun _ => hrest)
    omega
  | escape a d rest b hb ih =>
    intro state hstate
    have hstep := bulk_read_cons hstate b fun next hnext => (ih next hnext).1
    -- An escape has three characters and stands for one octet, so it always loses some.
    have hbulk : bulk ('%' :: a :: d :: rest) = 3 + bulk rest := by
      obtain ⟨ha, hd⟩ := hexValue?_octet hb
      have ha : a ≠ '/' := fun heq => by rw [heq] at ha; cases ha
      have hd : d ≠ '/' := fun heq => by rw [heq] at hd; cases hd
      simp [bulk_cons, ha, hd]
      omega
    rw [octets_escape hb, hbulk]
    simp only [List.drop_succ_cons, List.drop_zero]
    omega

theorem weight_le (cs : List Char) : weight cs ≤ bulk cs := by
  have h := (bulk_read_octets cs none (by simp)).1
  rwa [debt, Nat.zero_add] at h

theorem weight_lt {cs : List Char} (h : ¬NoEscape cs) : weight cs < bulk cs := by
  have h := (bulk_read_octets cs none (by simp)).2 h
  rwa [debt, Nat.zero_add] at h

/-- The weight of several texts. -/
def total (ws : List (List Char)) : Nat := bulk (ws.flatMap fun w => read none (octets w))

theorem total_cons (w : List Char) (ws : List (List Char)) : total (w :: ws) = weight w + total ws := bulk_append _ _

theorem total_singleton (w : List Char) : total [w] = weight w := by
  simp [total, weight]

theorem total_append (ws vs : List (List Char)) : total (ws ++ vs) = total ws + total vs := by
  rw [total, List.flatMap_append, bulk_append, total, total]

theorem total_le {ws vs : List (List Char)} (h : ws.Sublist vs) : total ws ≤ total vs := bulk_le (h.flatMap _)

theorem total_splitOnP {p q : Char → Bool} (hmark : ∀ c, p c = true → IsPlainMark c) (hkept : ∀ c, p c = true → q c = true)
    (cs : List Char) :
    total ((cs.splitOnP p).map fun w => w.filter q) + cs.countP (fun c => p c && c != '/') = weight (cs.filter q) := by
  -- The text before the next mark is collected in `xs`, for the induction to go through.
  have hcut : ∀ xs : List Char, (∀ c ∈ xs, p c = false) →
      total (((xs ++ cs).splitOnP p).map fun w => w.filter q) + cs.countP (fun c => p c && c != '/') =
        weight ((xs ++ cs).filter q) := by
    induction cs with
    | nil =>
      intro xs hxs
      simp [List.splitOnP_eq_singleton hxs, total_singleton]
    | cons c cs ih =>
      intro xs hxs
      cases hc : p c with
      | false =>
        have hnext := ih (xs ++ [c]) fun d hd => by
          rcases List.mem_append.mp hd with hd | hd
          · exact hxs d hd
          · rwa [List.mem_singleton.mp hd]
        simpa [hc] using hnext
      | true =>
        have hrest := ih [] (by simp)
        have hsplit : (xs ++ c :: cs).splitOnP p = xs :: cs.splitOnP p := by
          rw [List.splitOnP_append_cons _ _ hc, List.splitOnP_eq_singleton hxs, List.singleton_append]
        rw [hsplit, List.filter_append, List.filter_cons_of_pos (hkept c hc), weight_append_cons (hmark c hc), List.map_cons,
          total_cons, List.countP_cons]
        rw [List.nil_append] at hrest
        by_cases hslash : c = '/' <;> simp [hc, hslash] <;> omega
  simpa using hcut [] (by simp)

end Percent

end SchemaBeans.Text
