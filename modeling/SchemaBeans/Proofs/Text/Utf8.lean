import SchemaBeans.Proofs.Text.Split
import SchemaBeans.Text.Utf8

/-! Reading UTF-8 gives back what was written.

Reading takes the octets of a character in one go, and an octet of ASCII ends whatever was under way, also
where the octets before it are no UTF-8. So text can be cut at an ASCII character before it is read or
after. -/

namespace SchemaBeans.Text.Utf8

/-! ### Characters -/

section
variable {a b c d : UInt8} {p : Partial} {rest : List UInt8}

theorem read_whole (h : a.toNat < 0x80) : read none (a :: rest) = Char.ofNat a.toNat :: read none rest := by
  simp [read, first, h]

theorem read_last {value low high : Nat} (h : low ≤ b.toNat ∧ b.toNat ≤ high) :
    read (some ⟨value, 1, low, high⟩) (b :: rest) = Char.ofNat (value * 0x40 + b.toNat % 0x40) :: read none rest := by
  simp [read, h]

theorem read_more {value missing low high : Nat} (h : low ≤ b.toNat ∧ b.toNat ≤ high) :
    read (some ⟨value, missing + 2, low, high⟩) (b :: rest) =
      read (some ⟨value * 0x40 + b.toNat % 0x40, missing + 1, 0x80, 0xBF⟩) rest := by
  simp [read, h]

theorem read_starts (h : first a = .starts p) : read none (a :: rest) = read (some p) rest := by
  simp [read, h]

theorem read_two (ha : 0xC2 ≤ a.toNat ∧ a.toNat < 0xE0) (hb : 0x80 ≤ b.toNat ∧ b.toNat ≤ 0xBF) :
    read none (a :: b :: rest) = Char.ofNat ((a.toNat - 0xC0) * 0x40 + b.toNat % 0x40) :: read none rest := by
  have hfirst : first a = .starts ⟨a.toNat - 0xC0, 1, 0x80, 0xBF⟩ := by
    simp only [first]
    rw [if_neg (by omega), if_neg (by omega), if_pos ha.2]
  rw [read_starts hfirst, read_last hb]

theorem read_three (ha : 0xE0 ≤ a.toNat ∧ a.toNat < 0xF0) (hb : 0x80 ≤ b.toNat ∧ b.toNat ≤ 0xBF)
    (hlow : a.toNat = 0xE0 → 0xA0 ≤ b.toNat) (hhigh : a.toNat = 0xED → b.toNat ≤ 0x9F)
    (hc : 0x80 ≤ c.toNat ∧ c.toNat ≤ 0xBF) :
    read none (a :: b :: c :: rest) =
      Char.ofNat (((a.toNat - 0xE0) * 0x40 + b.toNat % 0x40) * 0x40 + c.toNat % 0x40) :: read none rest := by
  obtain ⟨low, high, hfirst, hb⟩ : ∃ low high, first a = .starts ⟨a.toNat - 0xE0, 2, low, high⟩ ∧
      low ≤ b.toNat ∧ b.toNat ≤ high := by
    simp only [first, beq_iff_eq]
    rw [if_neg (by omega), if_neg (by omega), if_neg (by omega)]
    split
    · rename_i h
      exact ⟨_, _, by rw [h], hlow h, hb.2⟩
    · split
      · rename_i h
        exact ⟨_, _, rfl, hb.1, hhigh h⟩
      · rw [if_pos ha.2]
        exact ⟨_, _, rfl, hb⟩
  rw [read_starts hfirst, read_more hb, read_last hc]

theorem read_four (ha : 0xF0 ≤ a.toNat ∧ a.toNat ≤ 0xF4) (hb : 0x80 ≤ b.toNat ∧ b.toNat ≤ 0xBF)
    (hlow : a.toNat = 0xF0 → 0x90 ≤ b.toNat) (hhigh : a.toNat = 0xF4 → b.toNat ≤ 0x8F)
    (hc : 0x80 ≤ c.toNat ∧ c.toNat ≤ 0xBF) (hd : 0x80 ≤ d.toNat ∧ d.toNat ≤ 0xBF) :
    read none (a :: b :: c :: d :: rest) =
      Char.ofNat ((((a.toNat - 0xF0) * 0x40 + b.toNat % 0x40) * 0x40 + c.toNat % 0x40) * 0x40 + d.toNat % 0x40) ::
        read none rest := by
  obtain ⟨low, high, hfirst, hb⟩ : ∃ low high, first a = .starts ⟨a.toNat - 0xF0, 3, low, high⟩ ∧
      low ≤ b.toNat ∧ b.toNat ≤ high := by
    simp only [first, beq_iff_eq]
    rw [if_neg (by omega), if_neg (by omega), if_neg (by omega), if_neg (by omega), if_neg (by omega), if_neg (by omega)]
    split
    · rename_i h
      exact ⟨_, _, by rw [h], hlow h, hb.2⟩
    · split
      · exact ⟨_, _, rfl, hb⟩
      · rw [if_pos (by omega)]
        exact ⟨_, _, rfl, hb.1, hhigh (by omega)⟩
  rw [read_starts hfirst, read_more hb, read_more hc, read_last hd]

end

theorem toNat_ofNat {n : Nat} (h : n < 0x100) : (UInt8.ofNat n).toNat = n := by
  rw [UInt8.toNat_ofNat', Nat.mod_eq_of_lt h]

theorem read_encodeChar (c : Char) (rest : List UInt8) :
    read none (String.utf8EncodeChar c ++ rest) = c :: read none rest := by
  have hvalid : c.val.toNat < 0xD800 ∨ 0xDFFF < c.val.toNat ∧ c.val.toNat < 0x110000 := c.valid
  have hc : Char.ofNat c.val.toNat = c := Char.ofNat_toNat c
  rw [String.utf8EncodeChar]
  generalize c.val.toNat = v at hvalid hc
  split
  · have hv := toNat_ofNat (n := v) (by omega)
    rw [List.singleton_append, read_whole (by omega), hv, hc]
  · split
    · have ha := toNat_ofNat (n := v / 64 % 0x20 + 0xc0) (by omega)
      have hb := toNat_ofNat (n := v % 0x40 + 0x80) (by omega)
      rw [List.cons_append, List.singleton_append, read_two (by omega) (by omega), ha, hb, ← hc]
      congr 2
      omega
    · split
      · have ha := toNat_ofNat (n := v / 4096 % 0x10 + 0xe0) (by omega)
        have hb := toNat_ofNat (n := v / 64 % 0x40 + 0x80) (by omega)
        have hd := toNat_ofNat (n := v % 0x40 + 0x80) (by omega)
        rw [List.cons_append, List.cons_append, List.singleton_append,
          read_three (by omega) (by omega) (by omega) (by omega) (by omega), ha, hb, hd, ← hc]
        congr 2
        omega
      · have ha := toNat_ofNat (n := v / 262144 % 0x08 + 0xf0) (by omega)
        have hb := toNat_ofNat (n := v / 4096 % 0x40 + 0x80) (by omega)
        have hd := toNat_ofNat (n := v / 64 % 0x40 + 0x80) (by omega)
        have he := toNat_ofNat (n := v % 0x40 + 0x80) (by omega)
        rw [List.cons_append, List.cons_append, List.cons_append, List.singleton_append,
          read_four (by omega) (by omega) (by omega) (by omega) (by omega) (by omega), ha, hb, hd, he, ← hc]
        congr 2
        omega

theorem encodeChar_ascii {c : Char} (h : c.toNat < 0x80) : String.utf8EncodeChar c = [UInt8.ofNat c.toNat] := by
  have hle : c.val.toNat ≤ 0x7f := Nat.le_of_lt_succ h
  rw [String.utf8EncodeChar, if_pos hle]
  rfl

theorem read_flatMap (cs : List Char) (rest : List UInt8) :
    read none (cs.flatMap String.utf8EncodeChar ++ rest) = cs ++ read none rest := by
  induction cs with
  | nil => rfl
  | cons c cs ih => rw [List.flatMap_cons, List.append_assoc, read_encodeChar, ih, List.cons_append]

theorem decode_encode (s : String) : decode (encode s) = s := by
  have h := read_flatMap s.toList []
  rw [List.append_nil, read, List.append_nil] at h
  rw [decode, encode, h, String.ofList_toList]

theorem decode?_encode (s : String) : decode? (encode s) = some s := by
  simp [decode?, decode_encode]

theorem encode_injective {s t : String} (h : encode s = encode t) : s = t := by
  rw [← decode_encode s, h, decode_encode]

/-! ### Cutting at slashes -/

theorem encodeChar_of_mem {c : Char} {b : UInt8} (hb : b.toNat < 0x80) (h : b ∈ String.utf8EncodeChar c) :
    c.toNat = b.toNat ∧ String.utf8EncodeChar c = [b] := by
  have hvalid : c.val.toNat < 0xD800 ∨ 0xDFFF < c.val.toNat ∧ c.val.toNat < 0x110000 := c.valid
  have hc : c.toNat = c.val.toNat := rfl
  rw [String.utf8EncodeChar] at h ⊢
  rw [hc]
  generalize c.val.toNat = v at hvalid h
  -- All octets of a longer character are 0x80 or more.
  have hlow : ∀ {n : Nat}, b = UInt8.ofNat n → n < 0x100 → n < 0x80 := by
    rintro n rfl hn
    rwa [toNat_ofNat hn] at hb
  split at h
  · obtain rfl := List.mem_singleton.mp h
    rw [if_pos (by assumption), toNat_ofNat (by omega)]
    exact ⟨rfl, rfl⟩
  · exfalso
    split at h
    · simp only [List.mem_cons, List.not_mem_nil, or_false] at h
      rcases h with h | h <;> have := hlow h (by omega) <;> omega
    · split at h
      · simp only [List.mem_cons, List.not_mem_nil, or_false] at h
        rcases h with h | h | h <;> have := hlow h (by omega) <;> omega
      · simp only [List.mem_cons, List.not_mem_nil, or_false] at h
        rcases h with h | h | h | h <;> have := hlow h (by omega) <;> omega

theorem slash_not_mem_flatMap {cs : List Char} (h : '/' ∉ cs) : 0x2F ∉ cs.flatMap String.utf8EncodeChar := by
  intro hmem
  obtain ⟨c, hc, hb⟩ := List.mem_flatMap.mp hmem
  have heq := (encodeChar_of_mem (by decide) hb).1
  rw [show c = '/' from Char.toNat_inj.mp heq] at hc
  exact h hc

theorem splitOn_flatMap (cs : List Char) :
    (cs.flatMap String.utf8EncodeChar).splitOn 0x2F = (cs.splitOn '/').map (·.flatMap String.utf8EncodeChar) := by
  have hslash : String.utf8EncodeChar '/' = [0x2F] := by decide
  have hcs := flatMap_intercalate String.utf8EncodeChar '/' (cs.splitOn '/')
  rw [List.intercalate_splitOn, hslash] at hcs
  rw [hcs, List.splitOn_intercalate]
  · intro w hw
    obtain ⟨v, hv, rfl⟩ := List.mem_map.mp hw
    exact slash_not_mem_flatMap fun hmem => by simpa using (of_mem_splitOnP hv '/' hmem).2
  · simp

/-- What is started is a character outside ASCII. -/
structure Wide (p : Partial) : Prop where
  low : 0x80 ≤ p.low
  high : p.high ≤ 0xBF
  value : 2 ≤ p.value * 0x40 + (p.low - 0x80)
  last : p.missing = 1 → 2 ≤ p.value

theorem Wide.of_first {b : UInt8} {p : Partial} (h : first b = .starts p) : Wide p := by
  have hwide : ∀ {q : Partial}, First.starts q = .starts p →
      0x80 ≤ q.low ∧ q.high ≤ 0xBF ∧ 2 ≤ q.value * 0x40 + (q.low - 0x80) ∧ (q.missing = 1 → 2 ≤ q.value) → Wide p := by
    rintro q hq ⟨hlow, hhigh, hvalue, hlast⟩
    cases hq
    exact ⟨hlow, hhigh, hvalue, hlast⟩
  unfold first at h
  generalize b.toNat = n at h
  simp only [beq_iff_eq] at h
  repeat' split at h
  all_goals first | exact hwide h (by dsimp only; omega) | cases h

theorem Wide.more {p : Partial} {b : UInt8} (hp : Wide p) (hb : p.low ≤ b.toNat ∧ b.toNat ≤ p.high) :
    Wide ⟨p.value * 0x40 + b.toNat % 0x40, p.missing - 1, 0x80, 0xBF⟩ := by
  obtain ⟨hlow, hhigh, hvalue, -⟩ := hp
  constructor <;> simp <;> omega

/-- An octet of ASCII is read for itself, whatever was under way before it. -/
theorem read_append_whole {b : UInt8} (hb : b.toNat < 0x80) (bytes rest : List UInt8) (state : Option Partial)
    (hstate : ∀ p, state = some p → Wide p) :
    read state (bytes ++ b :: rest) = read state bytes ++ Char.ofNat b.toNat :: read none rest := by
  have hfirst : first b = .whole (Char.ofNat b.toNat) := by simp [first, hb]
  induction bytes generalizing state with
  | nil =>
    cases state with
    | none => simp [read, hfirst]
    | some p =>
      have hlow := (hstate p rfl).low
      -- An octet of ASCII never continues a character.
      have hout : ¬(p.low ≤ b.toNat ∧ b.toNat ≤ p.high) := by omega
      simp [read, hfirst, hout]
  | cons a bytes ih =>
    have hnone := ih none (by simp)
    have hstart : ∀ q, first a = .starts q → read (some q) (bytes ++ b :: rest) = read (some q) bytes ++
        Char.ofNat b.toNat :: read none rest := fun q hq => ih (some q) fun p hp => by
      cases hp
      exact Wide.of_first hq
    cases state with
    | none =>
      rw [List.cons_append, read, read]
      split
      · rw [hnone, List.cons_append]
      · exact hstart _ ‹_›
      · rw [hnone, List.cons_append]
    | some p =>
      rw [List.cons_append, read, read]
      split
      · rename_i hin
        simp only [Bool.and_eq_true, decide_eq_true_eq] at hin
        dsimp only
        split
        · rw [hnone, List.cons_append]
        · refine ih _ fun q hq => ?_
          cases hq
          exact (hstate p rfl).more hin
      · split
        · rw [hnone, List.cons_append, List.cons_append]
        · rw [hstart _ ‹_›, List.cons_append]
        · rw [hnone, List.cons_append, List.cons_append]

/-- The characters of ASCII except the first one, which invalid values would be taken for. -/
def IsPlain (c : Char) : Prop := 0 < c.toNat ∧ c.toNat < 0x80

instance (c : Char) : Decidable (IsPlain c) := inferInstanceAs (Decidable (_ ∧ _))

theorem toNat_char (n : Nat) : (Char.ofNat n).toNat = if n.isValidChar then n else 0 := by
  by_cases hvalid : n.isValidChar
  · rw [if_pos hvalid]
    exact congrArg Char.toNat (dif_pos hvalid)
  · rw [if_neg hvalid]
    exact congrArg Char.toNat (dif_neg hvalid)

theorem Wide.not_isPlain {p : Partial} (hp : Wide p) (hlast : p.missing = 1) (b : UInt8) :
    ¬IsPlain (Char.ofNat (p.value * 0x40 + b.toNat % 0x40)) := by
  have hvalue := hp.last hlast
  rw [IsPlain, toNat_char]
  split <;> omega

theorem toNat_of_whole {b : UInt8} {c : Char} (h : first b = .whole c) : c.toNat = b.toNat := by
  unfold first at h
  dsimp only at h
  split at h
  · cases h
    rw [toNat_char, if_pos (Or.inl (by omega))]
  · repeat' split at h
    all_goals cases h

/-- What reading one octet gives: a character of ASCII comes from its own octet, or is read later. -/
theorem mem_of_mem_read {c : Char} (hc : IsPlain c) {bytes : List UInt8} {state : Option Partial}
    (hstate : ∀ p, state = some p → Wide p) (h : c ∈ read state bytes) : ∃ b ∈ bytes, b.toNat = c.toNat := by
  -- What could not be read is replaced by a character beyond ASCII.
  have hne : c ≠ replacement := by
    rintro rfl
    revert hc
    decide
  induction bytes generalizing state with
  | nil =>
    cases state with
    | none => simp [read] at h
    | some p => exact absurd (List.mem_singleton.mp h) hne
  | cons b bytes ih =>
    have hrest : ∀ next : Option Partial, (∀ p, next = some p → Wide p) → c ∈ read next bytes →
        ∃ a ∈ b :: bytes, a.toNat = c.toNat := fun _ hnext hmem =>
      have ⟨a, ha, heq⟩ := ih hnext hmem
      ⟨a, List.mem_cons_of_mem b ha, heq⟩
    have hnone := hrest none (by simp)
    have hstart : ∀ q, first b = .starts q → c ∈ read (some q) bytes → ∃ a ∈ b :: bytes, a.toNat = c.toNat :=
      fun q hq => hrest (some q) fun p hp => by
        cases hp
        exact Wide.of_first hq
    have hwhole : ∀ d, first b = .whole d → c ∈ d :: read none bytes → ∃ a ∈ b :: bytes, a.toNat = c.toNat := by
      intro d hd hmem
      rcases List.mem_cons.mp hmem with rfl | hmem
      · exact ⟨b, List.mem_cons_self, (toNat_of_whole hd).symm⟩
      · exact hnone hmem
    cases state with
    | none =>
      rw [read] at h
      split at h
      · exact hwhole _ ‹_› h
      · exact hstart _ ‹_› h
      · exact hnone (List.mem_of_ne_of_mem hne h)
    | some p =>
      rw [read] at h
      split at h
      · rename_i hin
        simp only [Bool.and_eq_true, decide_eq_true_eq] at hin
        dsimp only at h
        split at h
        · rename_i hlast
          -- A character of several octets is not one of ASCII.
          rcases List.mem_cons.mp h with rfl | h
          · exact absurd hc ((hstate p rfl).not_isPlain (by simpa using hlast) b)
          · exact hnone h
        · refine hrest _ (fun q hq => ?_) h
          cases hq
          exact (hstate p rfl).more hin
      · split at h
        · exact hwhole _ ‹_› (List.mem_of_ne_of_mem hne h)
        · exact hstart _ ‹_› (List.mem_of_ne_of_mem hne h)
        · exact hnone (List.mem_of_ne_of_mem hne (List.mem_of_ne_of_mem hne h))

theorem read_intercalate (ws : List (List UInt8)) :
    read none (List.intercalate [0x2F] ws) = List.intercalate ['/'] (ws.map (read none)) := by
  induction ws with
  | nil => rfl
  | cons w ws ih =>
    cases ws with
    | nil => simp
    | cons v ws =>
      rw [List.intercalate_cons_cons, List.append_assoc, List.singleton_append,
        read_append_whole (by decide) w _ none (by simp), ih]
      simp [List.intercalate_cons_cons]

/-- Octets can be cut at slashes before they are read. -/
theorem splitOn_read (bytes : List UInt8) : (read none bytes).splitOn '/' = (bytes.splitOn 0x2F).map (read none) := by
  have hread := read_intercalate (bytes.splitOn 0x2F)
  rw [List.intercalate_splitOn] at hread
  rw [hread, List.splitOn_intercalate]
  · intro w hw hmem
    obtain ⟨v, hv, rfl⟩ := List.mem_map.mp hw
    obtain ⟨b, hb, heq⟩ := mem_of_mem_read (by decide) (by simp) hmem
    have hb' : b = 0x2F := UInt8.toNat_inj.mp heq
    simpa [hb'] using (of_mem_splitOnP hv b hb).2
  · simp

theorem head_read {p : Partial} (hp : Wide p) {bytes : List UInt8} {c : Char} {cs : List Char}
    (h : read (some p) bytes = c :: cs) : ¬IsPlain c := by
  induction bytes generalizing p with
  | nil =>
    cases h
    decide
  | cons b bytes ih =>
    rw [read] at h
    split at h
    · rename_i hin
      simp only [Bool.and_eq_true, decide_eq_true_eq] at hin
      dsimp only at h
      split at h
      · rename_i hlast
        cases h
        exact hp.not_isPlain (by simpa using hlast) b
      · exact ih (hp.more hin) h
    · split at h <;> cases h <;> decide

theorem read_eq_cons {c : Char} (hc : IsPlain c) {bytes : List UInt8} {cs : List Char} (h : read none bytes = c :: cs) :
    ∃ b rest, bytes = b :: rest ∧ b.toNat = c.toNat ∧ read none rest = cs := by
  cases bytes with
  | nil => cases h
  | cons b rest =>
    rw [read] at h
    split at h
    · cases h
      exact ⟨b, rest, rfl, (toNat_of_whole ‹_›).symm, rfl⟩
    · exact absurd hc (head_read (Wide.of_first ‹_›) h)
    · cases h
      exact absurd hc (by decide)

theorem read_some_ne_nil (p : Partial) (bytes : List UInt8) : read (some p) bytes ≠ [] := by
  induction bytes generalizing p with
  | nil => exact List.cons_ne_nil _ _
  | cons b bytes ih =>
    rw [read]
    split
    · dsimp only
      split
      · exact List.cons_ne_nil _ _
      · exact ih _
    · split <;> exact List.cons_ne_nil _ _

theorem read_eq_nil {bytes : List UInt8} (h : read none bytes = []) : bytes = [] := by
  cases bytes with
  | nil => rfl
  | cons b bytes =>
    rw [read] at h
    split at h
    · cases h
    · exact absurd h (read_some_ne_nil _ _)
    · cases h

theorem read_broken {p : Partial} {b : UInt8} (h : ¬(p.low ≤ b.toNat ∧ b.toNat ≤ p.high)) (rest : List UInt8) :
    read (some p) (b :: rest) = replacement :: read none (b :: rest) := by
  simp only [read, Bool.and_eq_true, decide_eq_true_eq, h, if_false]
  cases first b <;> rfl

theorem exists_encodeChar (c : Char) : ∃ b bytes, String.utf8EncodeChar c = b :: bytes ∧ (b.toNat < 0x80 ∨ 0xC0 ≤ b.toNat) := by
  have hvalid : c.val.toNat < 0xD800 ∨ 0xDFFF < c.val.toNat ∧ c.val.toNat < 0x110000 := c.valid
  rw [String.utf8EncodeChar]
  generalize c.val.toNat = v at hvalid
  split
  · exact ⟨_, _, rfl, Or.inl (by rw [toNat_ofNat (by omega)]; omega)⟩
  · split
    · exact ⟨_, _, rfl, Or.inr (by rw [toNat_ofNat (by omega)]; omega)⟩
    · split <;> exact ⟨_, _, rfl, Or.inr (by rw [toNat_ofNat (by omega)]; omega)⟩

theorem read_some_encodeChar {p : Partial} (hp : Wide p) (c : Char) (rest : List UInt8) :
    read (some p) (String.utf8EncodeChar c ++ rest) = replacement :: c :: read none rest := by
  obtain ⟨b, bytes, hbytes, hb⟩ := exists_encodeChar c
  have hlow := hp.low
  have hhigh := hp.high
  rw [← read_encodeChar c rest, hbytes, List.cons_append, read_broken (by omega)]

end SchemaBeans.Text.Utf8
