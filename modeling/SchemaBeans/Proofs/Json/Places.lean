import Mathlib.Data.List.Basic
import SchemaBeans.Catalog
import SchemaBeans.Proofs.Paths.Joining

/-! Only finitely many locations resolve in given documents.

A token can spell one key in several ways, since a tilde stands for itself or is escaped, and the pointers
that name parts of a value are listed with all their spellings. The list is as long as `Json.extent` says,
and it misses no pointer that resolves. -/

namespace SchemaBeans

/-! ### Tokens -/

namespace Pointer

/-- The tokens that spell a key. -/
def tokens : List Char → List (List Char)
  | [] => [[]]
  | c :: key =>
    if c = '/' then (tokens key).map ('~' :: '1' :: ·)
    else if c = '~' then (tokens key).map ('~' :: '0' :: ·) ++ (tokens key).map ('~' :: ·)
    else (tokens key).map (c :: ·)

theorem length_tokens (key : List Char) : (tokens key).length = Nat.pow 2 (key.count '~') := by
  induction key with
  | nil => rfl
  | cons c key ih =>
    unfold tokens
    split
    · rename_i hc
      subst hc
      rw [List.length_map, ih, List.count_cons_of_ne (by decide)]
    · split
      · rename_i hc
        subst hc
        rw [List.length_append, List.length_map, List.length_map, ih, List.count_cons_self]
        exact (Nat.mul_two _).symm
      · rename_i hc
        rw [List.length_map, ih, List.count_cons_of_ne hc]

theorem unescapeTilde_cons_of_ne {c : Char} (hc : c ≠ '~') (cs : List Char) :
    unescapeTilde (c :: cs) = c :: unescapeTilde cs := by
  rw [unescapeTilde]
  intro rest h
  exact absurd h hc

theorem head_unescapeSlash {c : Char} {cs w : List Char} (h : unescapeSlash w = c :: cs) (hc : c ≠ '/') :
    ∃ rest, w = c :: rest ∧ unescapeSlash rest = cs := by
  fun_cases unescapeSlash w with
  | case1 rest =>
    rw [unescapeSlash] at h
    exact absurd (List.cons.inj h).1.symm hc
  | case2 d rest _ => simp_all [unescapeSlash]
  | case3 => simp_all [unescapeSlash]

theorem mem_tokens {w : List Char} (hw : '/' ∉ w) : w ∈ tokens (unescapeTilde (unescapeSlash w)) := by
  fun_induction unescapeSlash w with
  | case1 rest ih =>
    rw [unescapeTilde_cons_of_ne (by decide)]
    have hrest := ih fun h => hw (by simp [h])
    simpa [tokens] using hrest
  | case2 c rest hesc ih =>
    have hslash : c ≠ '/' := fun h => hw (by simp [h])
    have hrest := ih fun h => hw (by simp [h])
    by_cases hc : c = '~'
    · subst hc
      -- A tilde is part of an escape if a zero follows, and stands for itself otherwise.
      by_cases hzero : ∃ cs, unescapeSlash rest = '0' :: cs
      · obtain ⟨cs, hcs⟩ := hzero
        obtain ⟨rest', rfl, -⟩ := head_unescapeSlash hcs (by decide)
        rw [hcs, unescapeTilde_cons_of_ne (by decide)] at hrest
        have hmem : rest' ∈ tokens (unescapeTilde cs) := by simpa [tokens] using hrest
        rw [hcs, unescapeTilde]
        simp [tokens, hmem]
      · rw [unescapeTilde]
        · simpa [tokens] using Or.inr hrest
        · intro cs _ hcs
          exact hzero ⟨cs, hcs⟩
    · rw [unescapeTilde_cons_of_ne hc]
      simpa [tokens, hslash, hc] using hrest
  | case3 => simp [unescapeTilde, tokens]

theorem tokens_of_plain {key : List Char} (hs : '/' ∉ key) (ht : '~' ∉ key) : tokens key = [key] := by
  induction key with
  | nil => rfl
  | cons c key ih =>
    simp only [List.mem_cons, not_or] at hs ht
    simp [tokens, ih hs.2 ht.2, Ne.symm hs.1, Ne.symm ht.1]

/-! ### Indices -/

theorem digitChar_of_isDigit {c : Char} (h : c.isDigit = true) : (c.toNat - 0x30).digitChar = c := by
  obtain ⟨hlo, hhi⟩ : 0x30 ≤ c.toNat ∧ c.toNat ≤ 0x39 := by
    simpa [Char.isDigit, UInt32.le_iff_toNat_le] using h
  have hc : c = Char.ofNat c.toNat := (Char.ofNat_toNat c).symm
  generalize c.toNat = n at hlo hhi hc
  subst hc
  have : n = 48 ∨ n = 49 ∨ n = 50 ∨ n = 51 ∨ n = 52 ∨ n = 53 ∨ n = 54 ∨ n = 55 ∨ n = 56 ∨ n = 57 := by omega
  rcases this with rfl | rfl | rfl | rfl | rfl | rfl | rfl | rfl | rfl | rfl <;> rfl

theorem toDigits_foldl {n : Nat} (hn : 0 < n) {ds : List Char} (hd : ds.all Char.isDigit = true) :
    Nat.toDigits 10 (ds.foldl (fun n d => n * 10 + (d.toNat - 0x30)) n) = Nat.toDigits 10 n ++ ds := by
  induction ds generalizing n with
  | nil => simp
  | cons d ds ih =>
    simp only [List.all_cons, Bool.and_eq_true] at hd
    have hv : d.toNat - 0x30 < 10 := by
      have : 0x30 ≤ d.toNat ∧ d.toNat ≤ 0x39 := by simpa [Char.isDigit, UInt32.le_iff_toNat_le] using hd.1
      omega
    have hdigit := Nat.toDigits_append_toDigits (b := 10) (by decide) hn hv
    rw [Nat.toDigits_of_lt_base hv, digitChar_of_isDigit hd.1] at hdigit
    rw [List.foldl_cons, ih (by omega) hd.2, Nat.mul_comm, ← hdigit, List.append_assoc]
    rfl

theorem toList_of_index? {key : String} {i : Nat} (h : index? key = some i) : key.toList = Nat.toDigits 10 i := by
  unfold index? at h
  split at h
  · cases h
  · rename_i hk
    cases h
    rw [hk]
    rfl
  · cases h
  · rename_i ds hnil hzero hlead
    split at h <;> cases h
    rename_i hd
    cases hk : key.toList with
    | nil => exact absurd hk hnil
    | cons d ds =>
      rw [hk] at hd hlead
      simp only [List.all_cons, Bool.and_eq_true] at hd
      have hd' : 0x30 ≤ d.toNat ∧ d.toNat ≤ 0x39 := by simpa [Char.isDigit, UInt32.le_iff_toNat_le] using hd.1
      -- The first digit is not a zero, as an index has none in front.
      have hpos : 0 < d.toNat - 0x30 := by
        have hne : d ≠ '0' := fun hd0 => hlead ds (by rw [hd0])
        have : d.toNat ≠ '0'.toNat := fun heq => hne (Char.toNat_inj.mp heq)
        have : '0'.toNat = 0x30 := rfl
        omega
      rw [List.foldl_cons, Nat.zero_mul, Nat.zero_add, toDigits_foldl hpos hd.2, Nat.toDigits_of_lt_base (by omega),
        digitChar_of_isDigit hd.1]
      rfl

/-- The pointer with given tokens. -/
def ofTokens (ws : List (List Char)) : String := String.ofList (ws.flatMap ('/' :: ·))

theorem flatMap_splitOnP (cs : List Char) : (cs.splitOnP (· == '/')).flatMap ('/' :: ·) = '/' :: cs := by
  induction cs with
  | nil => rfl
  | cons c cs ih =>
    rw [List.splitOnP_cons_eq_if_modifyHead]
    split
    · rename_i hc
      rw [List.flatMap_cons, ih, beq_iff_eq.mp hc]
      rfl
    · obtain ⟨w, ws, hws⟩ := List.exists_cons_of_ne_nil (List.splitOnP_ne_nil (· == '/') cs)
      rw [hws] at ih ⊢
      simp only [List.flatMap_cons, List.cons_append, List.cons.injEq, true_and] at ih
      simp [ih]

theorem not_mem_of_mem_splitOnP {cs w : List Char} (h : w ∈ cs.splitOnP (· == '/')) : '/' ∉ w := by
  intro hmem
  have hslash := (Text.of_mem_splitOnP h '/' hmem).2
  simp at hslash

theorem exists_tokens {pointer : String} (h : pointer.toList.head? = some '/') :
    ∃ ws : List (List Char), pointer = ofTokens ws ∧ (∀ w ∈ ws, '/' ∉ w) ∧
      segments pointer = ws.map fun w => String.ofList (unescapeTilde (unescapeSlash w)) := by
  obtain ⟨cs, hcs⟩ : ∃ cs, pointer.toList = '/' :: cs := by
    cases hp : pointer.toList with
    | nil =>
      rw [hp] at h
      cases h
    | cons c cs =>
      rw [hp] at h
      cases h
      exact ⟨cs, rfl⟩
  refine ⟨cs.splitOnP (· == '/'), ?_, fun w => not_mem_of_mem_splitOnP, ?_⟩
  · rw [ofTokens, flatMap_splitOnP, ← hcs, String.ofList_toList]
  · rw [segments, Text.pieces, hcs, List.splitOnP_cons_eq_if_modifyHead]
    simp [unescape, Function.comp_def]

end Pointer

/-! ### Pointers into a value -/

mutual

/-- The pointers to the parts of a value, each as its tokens. -/
def Json.paths : Json → List (List (List Char))
  | .array items => [] :: Json.itemsPaths 0 items
  | .object fields => [] :: Json.fieldsPaths fields
  | _ => [[]]

def Json.itemsPaths : Nat → List Json → List (List (List Char))
  | _, [] => []
  | i, v :: rest => v.paths.map (Nat.toDigits 10 i :: ·) ++ Json.itemsPaths (i + 1) rest

def Json.fieldsPaths : List (String × Json) → List (List (List Char))
  | [] => []
  | (key, v) :: rest =>
    (Pointer.tokens key.toList).flatMap (fun w => v.paths.map (w :: ·)) ++ Json.fieldsPaths rest

end

namespace Json

mutual

theorem length_paths : ∀ v : Json, v.paths.length = v.extent
  | .null => rfl
  | .bool _ => rfl
  | .number _ => rfl
  | .string _ => rfl
  | .array items => by rw [paths, extent, List.length_cons, length_itemsPaths, Nat.add_comm]
  | .object fields => by rw [paths, extent, List.length_cons, length_fieldsPaths, Nat.add_comm]

theorem length_itemsPaths : ∀ (i : Nat) (items : List Json), (itemsPaths i items).length = itemsExtent items
  | _, [] => rfl
  | i, v :: rest => by
    rw [itemsPaths, itemsExtent, List.length_append, List.length_map, length_paths v, length_itemsPaths]

theorem length_fieldsPaths : ∀ fields : List (String × Json), (fieldsPaths fields).length = fieldsExtent fields
  | [] => rfl
  | (key, v) :: rest => by
    have hconst : ∀ ws : List (List Char),
        (ws.flatMap fun w => v.paths.map (w :: ·)).length = ws.length * v.extent := by
      intro ws
      induction ws with
      | nil => simp
      | cons w ws ih =>
        rw [List.flatMap_cons, List.length_append, ih, List.length_map, length_paths v, List.length_cons,
          Nat.succ_mul, Nat.add_comm]
    rw [fieldsPaths, fieldsExtent, List.length_append, hconst, Pointer.length_tokens, length_fieldsPaths]
    rfl

end

theorem nil_mem_paths (v : Json) : [] ∈ v.paths := by
  cases v <;> simp [paths]

theorem mem_itemsPaths {items : List Json} {v : Json} {i j : Nat} (h : items[j]? = some v)
    {ws : List (List Char)} (hws : ws ∈ v.paths) : Nat.toDigits 10 (i + j) :: ws ∈ itemsPaths i items := by
  induction items generalizing i j with
  | nil => cases h
  | cons head rest ih =>
    rw [itemsPaths, List.mem_append]
    cases j with
    | zero =>
      cases h
      exact Or.inl (List.mem_map.mpr ⟨ws, hws, rfl⟩)
    | succ j =>
      have := ih (i := i + 1) (j := j) h
      rw [Nat.add_assoc, Nat.add_comm 1 j] at this
      exact Or.inr this

theorem mem_fieldsPaths {fields : List (String × Json)} {key : String} {v : Json}
    (h : Table.get? fields key = some v) {w : List Char} (hw : w ∈ Pointer.tokens key.toList)
    {ws : List (List Char)} (hws : ws ∈ v.paths) : w :: ws ∈ fieldsPaths fields := by
  induction fields with
  | nil => cases h
  | cons field rest ih =>
    obtain ⟨k, u⟩ := field
    rw [fieldsPaths, List.mem_append]
    rw [Table.get?] at h
    split at h
    · rename_i hk
      cases h
      subst hk
      exact Or.inl (List.mem_flatMap.mpr ⟨w, hw, List.mem_map.mpr ⟨ws, hws, rfl⟩⟩)
    · exact Or.inr (ih h)

/-- A list of tokens that leads to a part of a value is one of its paths. -/
theorem mem_paths {v n : Json} {ws : List (List Char)} (hws : ∀ w ∈ ws, '/' ∉ w)
    (h : v.descend? (ws.map fun w => String.ofList (Pointer.unescapeTilde (Pointer.unescapeSlash w))) = some n) :
    ws ∈ v.paths := by
  induction ws generalizing v with
  | nil => exact nil_mem_paths v
  | cons w ws ih =>
    rw [List.map_cons, descend?] at h
    obtain ⟨u, hu, h⟩ := Option.bind_eq_some_iff.mp h
    have hw := Pointer.mem_tokens (hws w List.mem_cons_self)
    have hrest := ih (fun w' hw' => hws w' (List.mem_cons_of_mem _ hw')) h
    unfold child? at hu
    split at hu
    · rw [paths]
      refine List.mem_cons_of_mem _ (mem_fieldsPaths hu ?_ hrest)
      rw [String.toList_ofList]
      exact hw
    · obtain ⟨i, hi, hitem⟩ := Option.bind_eq_some_iff.mp hu
      have hdigits := Pointer.toList_of_index? hi
      rw [String.toList_ofList] at hdigits
      -- Digits have no escapes, so an index has one token only.
      have hplain : ∀ c ∈ Nat.toDigits 10 i, c.isDigit = true := fun c hc =>
        Nat.isDigit_of_mem_toDigits (by decide) (by decide) hc
      rw [hdigits, Pointer.tokens_of_plain (fun hc => by simpa using hplain _ hc)
        (fun hc => by simpa using hplain _ hc), List.mem_singleton] at hw
      subst hw
      rw [paths]
      refine List.mem_cons_of_mem _ ?_
      have hmem := mem_itemsPaths (i := 0) hitem hrest
      rwa [Nat.zero_add] at hmem
    · cases hu

end Json

/-! ### Locations in documents -/

/-- The node at a location of given documents. -/
def Location.node? (documents : Table Uri Json) (l : Location) : Option Json :=
  (documents.get? l.root).bind (·.pointer? l.pointer)

/-- The locations in given documents. -/
def Location.places (documents : Table Uri Json) : List Location :=
  documents.flatMap fun entry => entry.2.paths.map fun ws => ⟨entry.1, Pointer.ofTokens ws⟩

namespace Location

theorem length_places (documents : Table Uri Json) :
    (places documents).length = (Catalog.preloaded documents).extent := by
  rw [places, Catalog.preloaded]
  induction documents with
  | nil => rfl
  | cons entry rest ih =>
    rw [List.flatMap_cons, List.length_append, List.length_map, Json.length_paths, List.foldr_cons, ih]

/-- Every location that resolves is one of the places. -/
theorem mem_places {documents : Table Uri Json} {l : Location} {node : Json} (h : l.node? documents = some node) :
    l ∈ places documents := by
  obtain ⟨document, hd, hp⟩ := Option.bind_eq_some_iff.mp h
  refine List.mem_flatMap.mpr ⟨(l.root, document), Table.mem_of_get? hd, ?_⟩
  unfold Json.pointer? at hp
  split at hp
  · rename_i hempty
    refine List.mem_map.mpr ⟨[], Json.nil_mem_paths document, ?_⟩
    rw [show Pointer.ofTokens [] = l.pointer from hempty.symm]
  · split at hp
    · rename_i hhead
      obtain ⟨ws, hptr, hws, hsegments⟩ := Pointer.exists_tokens hhead
      rw [hsegments] at hp
      refine List.mem_map.mpr ⟨ws, Json.mem_paths hws hp, ?_⟩
      rw [← hptr]
    · cases hp

end Location

end SchemaBeans
