import Mathlib.Data.List.Basic
import SchemaBeans.Proofs.Text.Utf8
import SchemaBeans.Text.Percent

/-! What percent-encoded text stands for.

Escaping characters does not change the octets of a text. The slashes among the octets come from slashes
and from `%2F`, so encoded text can be cut there before it is decoded (`splitOn_octets`), and a piece
decodes to `.` or `..` exactly when it is a dot segment. -/

namespace SchemaBeans.Text.Percent

/-! ### Octets -/

section
variable {c : Char} {cs rest : List Char} {b : UInt8}

@[simp]
theorem octets_nil : octets [] = [] := rfl

theorem octets_cons (h : c ≠ '%') (rest : List Char) : octets (c :: rest) = String.utf8EncodeChar c ++ octets rest := by
  rw [octets, octetsFrom, if_neg h]
  rfl

theorem octets_percent (h : octet? rest = none) : octets ('%' :: rest) = 0x25 :: octets rest := by
  rw [octets, octetsFrom, if_pos rfl, h]
  rfl

theorem octets_escape (h : octet? rest = some b) : octets ('%' :: rest) = b :: octets (rest.drop 2) := by
  rw [octets, octetsFrom, if_pos rfl, h]
  cases rest with
  | nil => cases h
  | cons a rest => cases rest with
    | nil => cases h
    | cons d rest => rfl

theorem exists_digits (h : octet? rest = some b) :
    ∃ a d tail x y, rest = a :: d :: tail ∧ hexValue? a = some x ∧ hexValue? d = some y ∧ b = UInt8.ofNat (x * 16 + y) := by
  cases rest with
  | nil => cases h
  | cons a rest => cases rest with
    | nil => cases h
    | cons d tail =>
      rw [octet?] at h
      split at h
      · cases h
        exact ⟨a, d, tail, _, _, rfl, ‹_›, ‹_›, rfl⟩
      · cases h

end

/-! ### Digits -/

theorem char_le_iff {a c : Char} : a ≤ c ↔ a.toNat ≤ c.toNat := Iff.rfl

theorem hexValue?_cases {c : Char} {x : Nat} (h : hexValue? c = some x) :
    (0x30 ≤ c.toNat ∧ c.toNat ≤ 0x39 ∧ x = c.toNat - 0x30) ∨ (0x61 ≤ c.toNat ∧ c.toNat ≤ 0x66 ∧ x = c.toNat - 0x57) ∨
      (0x41 ≤ c.toNat ∧ c.toNat ≤ 0x46 ∧ x = c.toNat - 0x37) := by
  simp only [hexValue?, Bool.and_eq_true, decide_eq_true_eq, char_le_iff] at h
  split at h
  · rename_i hc
    cases h
    exact Or.inl ⟨hc.1, hc.2, rfl⟩
  · split at h
    · rename_i hc
      cases h
      exact Or.inr (Or.inl ⟨hc.1, hc.2, rfl⟩)
    · split at h
      · rename_i hc
        cases h
        exact Or.inr (Or.inr ⟨hc.1, hc.2, rfl⟩)
      · cases h

theorem hexValue?_lt {c : Char} {x : Nat} (h : hexValue? c = some x) : x < 16 := by
  rcases hexValue?_cases h with h | h | h <;> omega

theorem hexValue?_hexDigit : ∀ n < 16, hexValue? (hexDigit n) = some n := by decide

theorem octet?_escape (b : UInt8) (rest : List Char) :
    octet? (hexDigit (b.toNat / 16) :: hexDigit (b.toNat % 16) :: rest) = some b := by
  have hb := b.toNat_lt
  rw [octet?, hexValue?_hexDigit _ (by omega), hexValue?_hexDigit _ (by omega)]
  refine congrArg some (UInt8.toNat_inj.mp ?_)
  rw [Utf8.toNat_ofNat (by omega)]
  omega

theorem octets_escape_append (b : UInt8) (rest : List Char) : octets (escape b ++ rest) = b :: octets rest :=
  octets_escape (octet?_escape b rest)

/-- Encoded text is read token by token: a character, a percent sign that spells nothing, or an escape. -/
@[elab_as_elim]
theorem tokenInduction {motive : List Char → Prop} (nil : motive [])
    (plain : ∀ c rest, c ≠ '%' → motive rest → motive (c :: rest))
    (lone : ∀ rest, octet? rest = none → motive rest → motive ('%' :: rest))
    (escape : ∀ a d rest b, octet? (a :: d :: rest) = some b → motive rest → motive ('%' :: a :: d :: rest))
    (cs : List Char) : motive cs := by
  induction hn : cs.length using Nat.strongRecOn generalizing cs with
  | ind n ih =>
    subst hn
    cases cs with
    | nil => exact nil
    | cons c rest =>
      have hrest : motive rest := ih _ (by simp) rest rfl
      by_cases hc : c = '%'
      · subst hc
        cases ho : octet? rest with
        | none => exact lone rest ho hrest
        | some b =>
          obtain ⟨a, d, tail, x, y, rfl, -⟩ := exists_digits ho
          exact escape a d tail b ho (ih _ (by simp; omega) tail rfl)
      · exact plain c rest hc hrest

theorem octets_append_cons {c : Char} (hc : hexValue? c = none) (xs ys : List Char) :
    octets (xs ++ c :: ys) = octets xs ++ octets (c :: ys) := by
  induction xs using tokenInduction with
  | nil => rfl
  | plain d rest hd ih => rw [List.cons_append, octets_cons hd, octets_cons hd, ih, List.append_assoc]
  | lone rest hrest ih =>
    have hmore : octet? (rest ++ c :: ys) = none := by
      match rest, hrest with
      | [], _ => cases ys <;> simp [octet?, hc]
      | [a], _ => simp [octet?, hc]
      | a :: d :: rest, hrest => exact hrest
    rw [List.cons_append, octets_percent hmore, octets_percent hrest, ih, List.cons_append]
  | escape a d rest b hb ih =>
    have hmore : octet? (a :: d :: (rest ++ c :: ys)) = some b := hb
    rw [List.cons_append, List.cons_append, List.cons_append, octets_escape hmore, octets_escape hb]
    exact congrArg (b :: ·) ih

theorem octets_append {ys : List Char} (h : ∀ c, ys.head? = some c → hexValue? c = none) (xs : List Char) :
    octets (xs ++ ys) = octets xs ++ octets ys := by
  cases ys with
  | nil => rw [List.append_nil, octets_nil, List.append_nil]
  | cons c ys => exact octets_append_cons (h c rfl) xs ys

/-! ### Encoding -/

/-- A set of characters without those that escapes are made of. -/
structure KeepsEscapes (set : Char → Bool) : Prop where
  percent : set '%' = false
  digit : ∀ c x, hexValue? c = some x → set c = false

section
variable {set : Char → Bool}

theorem encodeChars_cons (set : Char → Bool) (c : Char) (cs : List Char) :
    encodeChars set (c :: cs) = (String.utf8EncodeChar c).flatMap (encodeOctet set) ++ encodeChars set cs := rfl

theorem encodeChars_append (set : Char → Bool) (cs ds : List Char) :
    encodeChars set (cs ++ ds) = encodeChars set cs ++ encodeChars set ds := List.flatMap_append

theorem toNat_lt_of_hexValue? {c : Char} {x : Nat} (h : hexValue? c = some x) : c.toNat < 0x80 := by
  rcases hexValue?_cases h with h | h | h <;> omega

theorem encodeChars_plain {c : Char} (hc : c.toNat < 0x80) (hset : set c = false) (cs : List Char) :
    encodeChars set (c :: cs) = c :: encodeChars set cs := by
  have hbyte : (UInt8.ofNat c.toNat).toNat = c.toNat := Utf8.toNat_ofNat (by omega)
  rw [encodeChars_cons, Utf8.encodeChar_ascii hc, List.flatMap_singleton, encodeOctet, hbyte, Char.ofNat_toNat]
  simp [hc, hset]

theorem encodeChars_escaped {c : Char} (h : 0x80 ≤ c.toNat ∨ set c = true) (cs : List Char) :
    encodeChars set (c :: cs) = (String.utf8EncodeChar c).flatMap Percent.escape ++ encodeChars set cs := by
  rw [encodeChars_cons]
  refine congrArg (· ++ _) (List.flatMap_congr fun b hb => ?_)
  rw [encodeOctet]
  split
  · rename_i hplain
    simp only [Bool.and_eq_true, decide_eq_true_eq, Bool.not_eq_eq_eq_not, Bool.not_true] at hplain
    have hc := (Utf8.encodeChar_of_mem hplain.1 hb).1
    rw [← hc, Char.ofNat_toNat] at hplain
    rcases h with h | h
    · omega
    · rw [h] at hplain
      cases hplain.2
  · rfl

theorem octets_flatMap_escape (bytes : List UInt8) (rest : List Char) :
    octets (bytes.flatMap Percent.escape ++ rest) = bytes ++ octets rest := by
  induction bytes with
  | nil => rfl
  | cons b bytes ih => rw [List.flatMap_cons, List.append_assoc, octets_escape_append, ih, List.cons_append]

theorem encodeChars_digit (hset : KeepsEscapes set) {c : Char} {x : Nat} (h : hexValue? c = some x) (cs : List Char) :
    encodeChars set (c :: cs) = c :: encodeChars set cs :=
  encodeChars_plain (toNat_lt_of_hexValue? h) (hset.digit c x h) cs

theorem plain_or_escaped (set : Char → Bool) (c : Char) :
    (c.toNat < 0x80 ∧ set c = false) ∨ 0x80 ≤ c.toNat ∨ set c = true := by
  cases set c
  · simpa using Nat.lt_or_ge c.toNat 0x80
  · simp

theorem head_encodeChars (set : Char → Bool) (c : Char) (cs : List Char) :
    ∃ d rest, encodeChars set (c :: cs) = d :: rest ∧ (d = c ∨ d = '%') := by
  rcases plain_or_escaped set c with ⟨hc, hplain⟩ | hescaped
  · exact ⟨c, _, encodeChars_plain hc hplain cs, Or.inl rfl⟩
  · obtain ⟨b, bs, hbs⟩ := List.exists_cons_of_ne_nil (@String.utf8EncodeChar_ne_nil c)
    rw [encodeChars_escaped hescaped, hbs]
    exact ⟨'%', _, rfl, Or.inr rfl⟩

theorem hexValue?_head_encodeChars (set : Char → Bool) {c : Char} (h : hexValue? c = none) (cs : List Char) :
    ∃ d rest, encodeChars set (c :: cs) = d :: rest ∧ hexValue? d = none := by
  obtain ⟨d, rest, heq, rfl | rfl⟩ := head_encodeChars set c cs
  · exact ⟨d, rest, heq, h⟩
  · exact ⟨'%', rest, heq, by decide⟩

theorem octet?_encodeChars (hset : KeepsEscapes set) {cs : List Char} (h : octet? cs = none) :
    octet? (encodeChars set cs) = none := by
  -- An escape needs two digits after the percent sign.
  have hhead : ∀ {a : Char} {rest : List Char}, hexValue? a = none → octet? (a :: rest) = none := by
    intro a rest ha
    cases rest <;> simp [octet?, ha]
  have hsecond : ∀ {a d : Char} {rest : List Char}, hexValue? d = none → octet? (a :: d :: rest) = none := by
    intro a d rest hd
    cases ha : hexValue? a <;> simp [octet?, ha, hd]
  cases cs with
  | nil => rfl
  | cons a cs =>
    cases ha : hexValue? a with
    | none =>
      obtain ⟨d, rest, hd, hnone⟩ := hexValue?_head_encodeChars set ha cs
      rw [hd]
      exact hhead hnone
    | some x =>
      rw [encodeChars_digit hset ha]
      cases cs with
      | nil => rfl
      | cons d cs =>
        -- Both digits would have spelled an octet.
        have hd : hexValue? d = none := by
          cases hd : hexValue? d with
          | none => rfl
          | some y => simp [octet?, ha, hd] at h
        obtain ⟨e, rest, he, hnone⟩ := hexValue?_head_encodeChars set hd cs
        rw [he]
        exact hsecond hnone

/-- Encoding keeps the octets that a text stands for. -/
theorem octets_encodeChars (hset : KeepsEscapes set) (cs : List Char) : octets (encodeChars set cs) = octets cs := by
  induction cs using tokenInduction with
  | nil => rfl
  | plain c rest hc ih =>
    rw [octets_cons hc]
    rcases plain_or_escaped set c with ⟨hascii, hplain⟩ | hescaped
    · rw [encodeChars_plain hascii hplain, octets_cons hc, ih]
    · rw [encodeChars_escaped hescaped, octets_flatMap_escape, ih]
  | lone rest h ih =>
    rw [encodeChars_plain (by decide) hset.percent, octets_percent (octet?_encodeChars hset h), octets_percent h, ih]
  | escape a d rest b h ih =>
    obtain ⟨a', d', tail, x, y, heq, ha, hd, rfl⟩ := exists_digits h
    cases heq
    have hencoded : octet? (a :: d :: encodeChars set rest) = octet? (a :: d :: rest) := rfl
    rw [encodeChars_plain (by decide) hset.percent, encodeChars_digit hset ha, encodeChars_digit hset hd,
      octets_escape (hencoded.trans h), octets_escape h]
    exact congrArg _ ih

theorem keepsEscapes_of_ascii (hpercent : set '%' = false)
    (h : ∀ n < 0x80, hexValue? (Char.ofNat n) ≠ none → set (Char.ofNat n) = false) : KeepsEscapes set := by
  refine ⟨hpercent, fun c x hx => ?_⟩
  have hc := h c.toNat (toNat_lt_of_hexValue? hx) (by simp [hx])
  rwa [Char.ofNat_toNat] at hc

theorem octets_encodeChars_eq (hset : set '%' = true) (cs : List Char) :
    octets (encodeChars set cs) = cs.flatMap String.utf8EncodeChar := by
  induction cs with
  | nil => rfl
  | cons c cs ih =>
    rcases plain_or_escaped set c with ⟨hc, hplain⟩ | hescaped
    · have hpercent : c ≠ '%' := by
        rintro rfl
        rw [hset] at hplain
        cases hplain
      rw [encodeChars_plain hc hplain, octets_cons hpercent, ih, List.flatMap_cons]
    · rw [encodeChars_escaped hescaped, octets_flatMap_escape, ih, List.flatMap_cons]

theorem decode_encode (hset : set '%' = true) (s : String) : decode (encode set s) = s := by
  rw [decode, encode, String.toList_ofList, octets_encodeChars_eq hset]
  exact Utf8.decode_encode s

theorem of_mem_encodeChars {c : Char} (hpercent : c ≠ '%') (hdigit : hexValue? c = none) {cs : List Char}
    (h : c ∈ encodeChars set cs) : c ∈ cs ∧ set c = false := by
  obtain ⟨d, hd, hmem⟩ := List.mem_flatMap.mp h
  obtain ⟨b, hb, hmem⟩ := List.mem_flatMap.mp hmem
  rw [encodeOctet] at hmem
  split at hmem
  · rename_i hplain
    simp only [Bool.and_eq_true, decide_eq_true_eq, Bool.not_eq_eq_eq_not, Bool.not_true] at hplain
    rw [List.mem_singleton] at hmem
    have hbd := (Utf8.encodeChar_of_mem hplain.1 hb).1
    rw [← hbd, Char.ofNat_toNat] at hmem hplain
    exact ⟨hmem ▸ hd, hmem ▸ hplain.2⟩
  · have hnot : ∀ n < 16, c ≠ hexDigit n := fun n hn heq => by
      rw [heq, hexValue?_hexDigit n hn] at hdigit
      cases hdigit
    have hb := b.toNat_lt
    simp [escape, hpercent, hnot (b.toNat / 16) (by omega), hnot (b.toNat % 16) (by omega)] at hmem

end

/-! ### Cutting at slashes -/

def piecesFrom : Nat → List Char → List (List Char)
  | _, [] => [[]]
  | skip + 1, _ :: rest => piecesFrom skip rest
  | 0, c :: rest =>
    if c = '/' then [] :: piecesFrom 0 rest
    else if c = '%' ∧ octet? rest = some 0x2F then [] :: piecesFrom 2 rest
    else (piecesFrom 0 rest).modifyHead (c :: ·)

/-- The pieces of encoded text between slashes, written as such or escaped. -/
def pieces (cs : List Char) : List (List Char) := piecesFrom 0 cs

section
variable {c : Char} {cs rest : List Char}

theorem pieces_slash (rest : List Char) : pieces ('/' :: rest) = [] :: pieces rest := rfl

theorem pieces_cons (hslash : c ≠ '/') (hescape : ¬(c = '%' ∧ octet? rest = some 0x2F)) :
    pieces (c :: rest) = (pieces rest).modifyHead (c :: ·) := by
  rw [pieces, piecesFrom, if_neg hslash, if_neg hescape]
  rfl

theorem pieces_slash_escape {a d : Char} (h : octet? (a :: d :: rest) = some 0x2F) :
    pieces ('%' :: a :: d :: rest) = [] :: pieces rest := by
  rw [pieces, piecesFrom, if_neg (by decide), if_pos ⟨rfl, h⟩]
  rfl

theorem pieces_digit {x : Nat} (h : hexValue? c = some x) (rest : List Char) :
    pieces (c :: rest) = (pieces rest).modifyHead (c :: ·) := by
  refine pieces_cons ?_ fun hc => ?_
  · rintro rfl
    cases h
  · rw [hc.1] at h
    cases h

theorem pieces_escape {a d : Char} {b : UInt8} (h : octet? (a :: d :: rest) = some b) (hb : b ≠ 0x2F) :
    pieces ('%' :: a :: d :: rest) = (pieces rest).modifyHead (['%', a, d] ++ ·) := by
  obtain ⟨_, _, _, _, _, heq, ha, hd, -⟩ := exists_digits h
  cases heq
  rw [pieces_cons (by decide) (by simp [h, hb]), pieces_digit ha, pieces_digit hd, List.modifyHead_modifyHead,
    List.modifyHead_modifyHead]
  rfl

end

theorem exists_pieces (cs : List Char) : ∃ w ws, pieces cs = w :: ws ∧ w <+: cs := by
  induction cs using tokenInduction with
  | nil => exact ⟨[], [], rfl, List.prefix_rfl⟩
  | plain c rest hc ih =>
    obtain ⟨w, ws, hpieces, hstart⟩ := ih
    by_cases hslash : c = '/'
    · subst hslash
      exact ⟨[], w :: ws, by rw [pieces_slash, hpieces], List.nil_prefix⟩
    · exact ⟨c :: w, ws, by rw [pieces_cons hslash (by simp [hc]), hpieces]; rfl, List.cons_prefix_cons.mpr ⟨rfl, hstart⟩⟩
  | lone rest h ih =>
    obtain ⟨w, ws, hpieces, hstart⟩ := ih
    exact ⟨'%' :: w, ws, by rw [pieces_cons (by decide) (by simp [h]), hpieces]; rfl,
      List.cons_prefix_cons.mpr ⟨rfl, hstart⟩⟩
  | escape a d rest b h ih =>
    obtain ⟨w, ws, hpieces, hstart⟩ := ih
    by_cases hb : b = 0x2F
    · subst hb
      exact ⟨[], w :: ws, by rw [pieces_slash_escape h, hpieces], List.nil_prefix⟩
    · exact ⟨['%', a, d] ++ w, ws, by rw [pieces_escape h hb, hpieces]; rfl, List.prefix_append_right_inj _ |>.mpr hstart⟩

theorem octet?_of_start {w cs : List Char} (hstart : w <+: cs) (h : octet? cs = none) : octet? w = none := by
  obtain ⟨rest, rfl⟩ := hstart
  match w with
  | [] | [_] => rfl
  | a :: d :: w => exact h

theorem splitOn_cons_of_ne {b : UInt8} (hb : b ≠ 0x2F) (bytes : List UInt8) :
    (b :: bytes).splitOn 0x2F = (bytes.splitOn 0x2F).modifyHead (b :: ·) := by
  rw [List.splitOn_cons_eq_if_modifyHead, if_neg (by simpa using hb)]

/-- The octets can be cut at slashes before they are decoded. -/
theorem splitOn_octets (cs : List Char) : (octets cs).splitOn 0x2F = (pieces cs).map octets := by
  induction cs using tokenInduction with
  | nil => rfl
  | plain c rest hc ih =>
    rw [octets_cons hc]
    by_cases hslash : c = '/'
    · subst hslash
      rw [pieces_slash, List.map_cons, ← ih]
      rfl
    -- A slash is written as its own octet, so it is in no other character.
    · have hnot : 0x2F ∉ String.utf8EncodeChar c := fun hmem =>
        hslash (Char.toNat_inj.mp (Utf8.encodeChar_of_mem (by decide) hmem).1)
      obtain ⟨w, ws, hpieces, -⟩ := exists_pieces rest
      rw [splitOn_append_of_not_mem hnot, ih, pieces_cons hslash (by simp [hc]), hpieces]
      simp [octets_cons hc]
  | lone rest h ih =>
    obtain ⟨w, ws, hpieces, hstart⟩ := exists_pieces rest
    have hsplit : (0x25 :: octets rest).splitOn 0x2F = _ := splitOn_cons_of_ne (by decide) (octets rest)
    rw [octets_percent h, hsplit, ih, pieces_cons (by decide) (by simp [h]), hpieces]
    simp [octets_percent (octet?_of_start hstart h)]
  | escape a d rest b h ih =>
    by_cases hb : b = 0x2F
    · subst hb
      rw [octets_escape h, pieces_slash_escape h, List.map_cons, ← ih]
      rfl
    · obtain ⟨w, ws, hpieces, -⟩ := exists_pieces rest
      have hw : octet? (a :: d :: w) = some b := h
      rw [octets_escape h, splitOn_cons_of_ne hb, pieces_escape h hb, hpieces]
      rw [List.drop_succ_cons, List.drop_succ_cons, List.drop_zero, ih, hpieces]
      simp [octets_escape hw]

theorem pieces_decode (s : String) :
    Text.pieces '/' (decode s) = (pieces s.toList).map fun w => decode (String.ofList w) := by
  have hsplit := Utf8.splitOn_read (octets s.toList)
  rw [splitOn_octets, List.splitOn_eq_splitOnP, List.map_map] at hsplit
  rw [Text.pieces, decode, Utf8.decode, String.toList_ofList, hsplit, List.map_map]
  simp [decode, Utf8.decode, Function.comp_def]

/-! ### Dots -/

theorem octets_eq_nil {w : List Char} (h : octets w = []) : w = [] := by
  induction w using tokenInduction with
  | nil => rfl
  | plain c rest hc =>
    rw [octets_cons hc, List.append_eq_nil_iff] at h
    exact absurd h.1 String.utf8EncodeChar_ne_nil
  | lone rest hrest =>
    rw [octets_percent hrest] at h
    cases h
  | escape a d rest b hrest =>
    rw [octets_escape hrest] at h
    cases h

theorem hexValue?_octet {a d : Char} {rest : List Char} {b : UInt8} (h : octet? (a :: d :: rest) = some b) :
    hexValue? a = some (b.toNat / 16) ∧ hexValue? d = some (b.toNat % 16) := by
  obtain ⟨_, _, _, x, y, heq, ha, hd, rfl⟩ := exists_digits h
  cases heq
  have hx := hexValue?_lt ha
  have hy := hexValue?_lt hd
  rw [ha, hd, Utf8.toNat_ofNat (by omega)]
  exact ⟨congrArg some (by omega), congrArg some (by omega)⟩

theorem eq_of_hexValue? {c low high : Char} {x : Nat} (h : hexValue? c = some x) (hx : 10 ≤ x)
    (hlow : low.toNat = x + 0x57) (hhigh : high.toNat = x + 0x37) : c = high ∨ c = low := by
  rw [← Char.toNat_inj, ← Char.toNat_inj]
  rcases hexValue?_cases h with h | h | h <;> omega

theorem eq_two_of_hexValue? {c : Char} (h : hexValue? c = some 2) : c = '2' := by
  refine Char.toNat_inj.mp ?_
  rcases hexValue?_cases h with h | h | h <;> simp <;> omega

/-- An encoded text that goes on after a dot, written as such or escaped. -/
def DotThen (w rest : List Char) : Prop :=
  w = '.' :: rest ∨ w = '%' :: '2' :: 'E' :: rest ∨ w = '%' :: '2' :: 'e' :: rest

theorem DotThen.octets {w rest : List Char} (h : DotThen w rest) : Percent.octets w = 0x2E :: Percent.octets rest := by
  rcases h with rfl | rfl | rfl
  · exact octets_cons (by decide) rest
  · exact octets_escape rfl
  · exact octets_escape rfl

theorem octets_eq_dot {w : List Char} {bytes : List UInt8} (h : octets w = 0x2E :: bytes) :
    ∃ rest, DotThen w rest ∧ octets rest = bytes := by
  cases w using tokenInduction with
  | nil => cases h
  | plain c rest hc =>
    rw [octets_cons hc] at h
    obtain ⟨b, bs, hbs⟩ := List.exists_cons_of_ne_nil (@String.utf8EncodeChar_ne_nil c)
    rw [hbs, List.cons_append, List.cons.injEq] at h
    obtain ⟨rfl, hrest⟩ := h
    obtain ⟨hc, hutf8⟩ := Utf8.encodeChar_of_mem (by decide) (hbs ▸ List.mem_cons_self : 0x2E ∈ String.utf8EncodeChar c)
    rw [hutf8, List.cons.injEq] at hbs
    refine ⟨rest, Or.inl (congrArg (· :: rest) (Char.toNat_inj.mp hc)), ?_⟩
    rw [← hrest, ← hbs.2, List.nil_append]
  | lone rest hrest =>
    rw [octets_percent hrest] at h
    cases h
  | escape a d rest b hrest =>
    rw [octets_escape hrest, List.cons.injEq] at h
    obtain ⟨rfl, hbytes⟩ := h
    obtain ⟨ha, hd⟩ := hexValue?_octet hrest
    obtain rfl := eq_two_of_hexValue? ha
    obtain rfl | rfl := eq_of_hexValue? hd (by decide) (rfl : 'e'.toNat = _) (rfl : 'E'.toNat = _)
    · exact ⟨rest, Or.inr (Or.inl rfl), hbytes⟩
    · exact ⟨rest, Or.inr (Or.inr rfl), hbytes⟩

theorem read_octets_eq_dot {w cs : List Char} :
    Utf8.read none (octets w) = '.' :: cs ↔ ∃ rest, DotThen w rest ∧ Utf8.read none (octets rest) = cs := by
  constructor
  · intro h
    obtain ⟨b, bytes, hbytes, hb, hread⟩ := Utf8.read_eq_cons (by decide) h
    obtain rfl : b = 0x2E := UInt8.toNat_inj.mp hb
    obtain ⟨rest, hdot, rfl⟩ := octets_eq_dot hbytes
    exact ⟨rest, hdot, hread⟩
  · rintro ⟨rest, hdot, rfl⟩
    rw [hdot.octets, Utf8.read_whole (by decide)]
    rfl

theorem decode_eq_iff {w cs : List Char} : decode (String.ofList w) = String.ofList cs ↔ Utf8.read none (octets w) = cs := by
  rw [decode, Utf8.decode, String.toList_ofList, String.ofList_inj]

theorem decode_encodeChars {set : Char → Bool} (hset : KeepsEscapes set) (cs : List Char) :
    decode (String.ofList (encodeChars set cs)) = decode (String.ofList cs) := by
  rw [decode, decode, String.toList_ofList, String.toList_ofList, octets_encodeChars hset]

theorem decode_eq_empty {w : List Char} : decode (String.ofList w) = "" ↔ w = [] := by
  rw [show "" = String.ofList [] from rfl, decode_eq_iff]
  refine ⟨fun h => octets_eq_nil (Utf8.read_eq_nil h), ?_⟩
  rintro rfl
  rfl

theorem decode_eq_dot {w : List Char} : decode (String.ofList w) = "." ↔ DotThen w [] := by
  rw [show "." = String.ofList ['.'] from rfl, decode_eq_iff, read_octets_eq_dot]
  constructor
  · rintro ⟨rest, hdot, hread⟩
    rwa [octets_eq_nil (Utf8.read_eq_nil hread)] at hdot
  · exact fun hdot => ⟨[], hdot, rfl⟩

theorem decode_eq_dots {w : List Char} : decode (String.ofList w) = ".." ↔ ∃ rest, DotThen w rest ∧ DotThen rest [] := by
  rw [show ".." = String.ofList ['.', '.'] from rfl, decode_eq_iff, read_octets_eq_dot]
  refine exists_congr fun rest => and_congr_right fun _ => ?_
  rw [← decode_eq_dot, ← decode_eq_iff]

/-! ### Text without escaped slashes -/

theorem pieces_eq_splitOn {cs : List Char} (h : ∀ d ∈ ['F', 'f'], ¬['%', '2', d] <:+: cs) : pieces cs = cs.splitOn '/' := by
  induction cs with
  | nil => rfl
  | cons c cs ih =>
    have ih := ih fun d hd hwithin => h d hd (List.infix_cons hwithin)
    rw [List.splitOn_cons_eq_if_modifyHead, ← ih]
    split
    · rename_i hslash
      rw [beq_iff_eq.mp hslash, pieces_slash]
    · rename_i hslash
      refine pieces_cons (by simpa using hslash) ?_
      rintro ⟨rfl, hoctet⟩
      obtain ⟨a, d, tail, _, _, rfl, -⟩ := exists_digits hoctet
      obtain ⟨ha, hd⟩ := hexValue?_octet hoctet
      obtain rfl := eq_two_of_hexValue? ha
      refine h d ?_ ⟨[], tail, rfl⟩
      obtain rfl | rfl := eq_of_hexValue? hd (by decide) (rfl : 'f'.toNat = _) (rfl : 'F'.toNat = _) <;> simp

/-! ### Text without escapes -/

/-- Every percent sign stands for itself. -/
def NoEscape (cs : List Char) : Prop := ∀ rest, '%' :: rest <:+ cs → octet? rest = none

theorem NoEscape.within {cs w : List Char} (h : NoEscape cs) (hwithin : w <:+: cs) : NoEscape w := by
  rintro rest ⟨front, hfront⟩
  obtain ⟨before, after, rfl⟩ := hwithin
  refine octet?_of_start ⟨after, rfl⟩ (h (rest ++ after) ⟨before ++ front, ?_⟩)
  rw [← hfront]
  simp

theorem NoEscape.cons {c : Char} {cs : List Char} (h : NoEscape cs) (hc : c = '%' → octet? cs = none) : NoEscape (c :: cs) := by
  intro rest hrest
  rcases List.suffix_cons_iff.mp hrest with heq | hrest
  · cases heq
    exact hc rfl
  · exact h rest hrest

theorem NoEscape.octets {cs : List Char} (h : NoEscape cs) : Percent.octets cs = cs.flatMap String.utf8EncodeChar := by
  induction cs with
  | nil => rfl
  | cons c cs ih =>
    have ih := ih (h.within (List.suffix_cons c cs).isInfix)
    by_cases hc : c = '%'
    · subst hc
      rw [octets_percent (h cs List.suffix_rfl), ih]
      rfl
    · rw [octets_cons hc, ih, List.flatMap_cons]

theorem NoEscape.decode {cs : List Char} (h : NoEscape cs) : Percent.decode (String.ofList cs) = String.ofList cs := by
  rw [decode_eq_iff, h.octets]
  simpa [Utf8.read] using Utf8.read_flatMap cs []

end SchemaBeans.Text.Percent
