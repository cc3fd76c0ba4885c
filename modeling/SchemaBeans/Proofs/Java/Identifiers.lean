import SchemaBeans.Proofs.Text.Categories
import SchemaBeans.Proofs.Text.Split
import SchemaBeans.TypeName

/-! Which names are Java identifiers.

Every name is made from the letters and numbers of a text, in order, some of them in upper case (`Cased`), with
underscores besides. So it can be an identifier exactly if all of these letters and numbers can stand in one. Since an
underscore is put before ASCII digits only, the first of them must not be a digit of another script. -/

namespace SchemaBeans.Java

open Text (isAlphanumeric isIdentifierChar isDecimalDigit uppercase capitalize Raised)

/-! ### Letters and numbers in a name -/

/-- What a name is made from. -/
def material (cs : List Char) : List Char := cs.filter isAlphanumeric

theorem flatten_words (cs : List Char) : (words cs).flatten = material cs := by
  simp [words, Text.flatten_splitOnP, material]

theorem isAlphanumeric_of_mem_words {cs w : List Char} (h : w ∈ words cs) : ∀ c ∈ w, isAlphanumeric c = true :=
  fun c hc => by simpa using (Text.of_mem_splitOnP h c hc).2

theorem isIdentifierChar_underscore : isIdentifierChar '_' = true := by decide +kernel

theorem not_isDecimalDigit_underscore : isDecimalDigit '_' = false := by decide +kernel

/-- A name has the characters of its material, each of them as it is or in upper case, and after them others that may
    stand in a name. -/
inductive Cased : List Char → List Char → Prop
  | nil : Cased [] []
  | cons {c d : Char} {cs more ds : List Char} : d = c ∨ Raised c d → (∀ x ∈ more, isIdentifierChar x = true) →
      Cased cs ds → Cased (c :: cs) (d :: (more ++ ds))

namespace Cased
variable {cs ds cs' ds' : List Char}

theorem refl (cs : List Char) : Cased cs cs := by
  induction cs with
  | nil => exact .nil
  | cons c cs ih => exact @Cased.cons c c cs [] cs (Or.inl rfl) (by simp) ih

theorem append (h : Cased cs ds) (h' : Cased cs' ds') : Cased (cs ++ cs') (ds ++ ds') := by
  induction h with
  | nil => exact h'
  | cons hd hmore _ ih => simpa using Cased.cons hd hmore ih

theorem capitalize {w : List Char} (h : ∀ c ∈ w, isAlphanumeric c = true) : Cased w (capitalize w) := by
  cases w with
  | nil => exact .nil
  | cons c w =>
    obtain ⟨d, more, hupper, hraised, hmore⟩ := Text.uppercase_raised (h c List.mem_cons_self)
    rw [Text.capitalize, hupper]
    exact .cons (Or.inr hraised) hmore (.refl w)

theorem flatten {ws : List (List Char)} (h : ∀ w ∈ ws, ∀ c ∈ w, isAlphanumeric c = true) :
    Cased ws.flatten (ws.map Text.capitalize).flatten := by
  induction ws with
  | nil => exact .nil
  | cons w ws ih =>
    exact (capitalize (h w List.mem_cons_self)).append (ih fun v hv => h v (List.mem_cons_of_mem w hv))

theorem constants {w : List Char} (h : ∀ c ∈ w, isAlphanumeric c = true) : Cased w (w.map constantChar) := by
  induction w with
  | nil => exact .nil
  | cons c w ih =>
    obtain ⟨d, more, hupper, hraised, -⟩ := Text.uppercase_raised (h c List.mem_cons_self)
    have hconstant : constantChar c = d := by simp [constantChar, h c List.mem_cons_self, hupper]
    rw [List.map_cons, hconstant]
    exact @Cased.cons c d w [] _ (Or.inr hraised) (by simp) (ih fun x hx => h x (List.mem_cons_of_mem c hx))

theorem eq_nil_iff (h : Cased cs ds) : ds = [] ↔ cs = [] := by
  cases h <;> simp

theorem joined (h : Cased cs ds) (hne : cs ≠ []) (h' : Cased cs' ds') : Cased (cs ++ cs') (ds ++ '_' :: ds') := by
  induction h with
  | nil => exact absurd rfl hne
  | @cons c d cs more ds hd hmore htail ih =>
    -- After the last character the underscore is one more of those that follow it.
    by_cases hcs : cs = []
    · obtain rfl := htail.eq_nil_iff.mpr hcs
      have hmore' : ∀ x ∈ more ++ ['_'], isIdentifierChar x = true := by
        rw [List.forall_mem_append]
        exact ⟨hmore, by simpa using isIdentifierChar_underscore⟩
      simpa [hcs] using Cased.cons hd hmore' h'
    · simpa using Cased.cons hd hmore (ih hcs)

theorem intercalate {ws : List (List Char)} (h : ∀ w ∈ ws, w ≠ [] ∧ ∀ c ∈ w, isAlphanumeric c = true) :
    Cased ws.flatten (List.intercalate ['_'] (ws.map (·.map constantChar))) := by
  induction ws with
  | nil => exact .nil
  | cons w ws ih =>
    obtain ⟨hne, hw⟩ := h w List.mem_cons_self
    have hrest := ih fun v hv => h v (List.mem_cons_of_mem w hv)
    cases ws with
    | nil => simpa using constants hw
    | cons v ws => simpa [List.intercalate_cons_cons] using (constants hw).joined hne hrest

theorem identifier_iff (h : Cased cs ds) :
    (∀ d ∈ ds, isIdentifierChar d = true) ↔ ∀ c ∈ cs, isIdentifierChar c = true := by
  induction h with
  | nil => simp
  | @cons c d cs more ds hd hmore _ ih =>
    have hsame : isIdentifierChar d = isIdentifierChar c := by
      rcases hd with rfl | hd
      · rfl
      · exact hd.identifier
    rw [List.forall_mem_cons, List.forall_mem_append, List.forall_mem_cons, hsame, ih]
    exact and_congr_right fun _ => and_iff_right hmore

theorem start_iff (h : Cased cs ds) : (∀ d, ds.head? = some d → isDecimalDigit d = true → d.isDigit = true) ↔
    ∀ c, cs.head? = some c → isDecimalDigit c = true → c.isDigit = true := by
  cases h with
  | nil => simp
  | @cons c d cs more ds hd _ _ =>
    have hsame : d = c ∨ isDecimalDigit c = false ∧ isDecimalDigit d = false := hd.elim Or.inl Raised.digit
    rcases hsame with rfl | ⟨hc, hd⟩
    · simp
    · simp [hc, hd]

end Cased

/-! ### Words -/

/-- The words of a text, without empty ones. -/
def properWords (cs : List Char) : List (List Char) := (words cs).filter (!·.isEmpty)

theorem flatten_properWords (cs : List Char) : (properWords cs).flatten = material cs := by
  rw [← flatten_words, properWords, List.flatten_filter_not_isEmpty]

theorem of_mem_properWords {cs w : List Char} (h : w ∈ properWords cs) :
    w ≠ [] ∧ ∀ c ∈ w, isAlphanumeric c = true := by
  obtain ⟨hw, hne⟩ := List.mem_filter.mp h
  exact ⟨by simpa using hne, isAlphanumeric_of_mem_words hw⟩

theorem cased_camelChars (cs : List Char) : Cased (material cs) (camelChars cs) := by
  have hwords := fun w (hw : w ∈ properWords cs) => (of_mem_properWords hw).2
  rw [← flatten_properWords, camelChars, ← properWords]
  cases hcs : properWords cs with
  | nil => exact .nil
  | cons first rest =>
    rw [hcs] at hwords
    exact (Cased.refl first).append (.flatten fun w hw => hwords w (List.mem_cons_of_mem first hw))

theorem constantChar_eq_underscore_iff (c : Char) : (constantChar c == '_') = !isAlphanumeric c := by
  cases hc : isAlphanumeric c with
  | false => simp [constantChar, hc]
  | true =>
    obtain ⟨d, more, hupper, hraised, -⟩ := Text.uppercase_raised hc
    simp [constantChar, hc, hupper, hraised.underscore]

/-! ### Legal names -/

/-- Characters that make an identifier, none of them a digit at the start. -/
structure IsIdentifier (cs : List Char) : Prop where
  start : ∀ c, cs.head? = some c → isDecimalDigit c = false
  characters : ∀ c ∈ cs, isIdentifierChar c = true

/-- A word that Java reads as an identifier. -/
structure Legal (name : String) : Prop where
  nonempty : name ≠ ""
  identifier : IsIdentifier name.toList
  reserved : name ∉ keywords

/-- Letters and numbers that a name can be made from. -/
structure Suits (cs : List Char) : Prop where
  start : ∀ c, cs.head? = some c → isDecimalDigit c = true → c.isDigit = true
  characters : ∀ c ∈ cs, isIdentifierChar c = true

theorem suits_nil : Suits [] := ⟨by simp, by simp⟩

theorem Cased.suits_iff {cs ds : List Char} (h : Cased cs ds) : Suits ds ↔ Suits cs := by
  have hstart := h.start_iff
  have hcharacters := h.identifier_iff
  exact ⟨fun h => ⟨hstart.mp h.start, hcharacters.mp h.characters⟩,
    fun h => ⟨hstart.mpr h.start, hcharacters.mpr h.characters⟩⟩

/-- An underscore before a leading ASCII digit leaves the digits of other scripts. -/
theorem isIdentifier_guardDigit_iff (cs : List Char) : IsIdentifier (guardDigit cs) ↔ Suits cs := by
  cases cs with
  | nil =>
    have hguard : guardDigit [] = [] := rfl
    rw [hguard]
    exact ⟨fun _ => suits_nil, fun _ => ⟨by simp, by simp⟩⟩
  | cons c cs =>
    cases hc : c.isDigit with
    | true =>
      -- The underscore starts an identifier, and what follows may have a digit at its start.
      have hguard : guardDigit (c :: cs) = '_' :: c :: cs := by simp [guardDigit, startsWithDigit, hc]
      rw [hguard]
      constructor
      · exact fun h => ⟨by simp [hc], fun x hx => h.characters x (List.mem_cons_of_mem _ hx)⟩
      · exact fun h => ⟨by simp [not_isDecimalDigit_underscore],
          List.forall_mem_cons.mpr ⟨isIdentifierChar_underscore, h.characters⟩⟩
    | false =>
      have hguard : guardDigit (c :: cs) = c :: cs := by simp [guardDigit, startsWithDigit, hc]
      rw [hguard]
      constructor
      · exact fun h => ⟨by simp [h.start c rfl], h.characters⟩
      · refine fun h => ⟨?_, h.characters⟩
        simpa [hc] using h.start

theorem isIdentifier_append_underscore_iff {cs : List Char} (hne : cs ≠ []) :
    IsIdentifier (cs ++ ['_']) ↔ IsIdentifier cs := by
  obtain ⟨c, cs, rfl⟩ := List.exists_cons_of_ne_nil hne
  constructor
  · exact fun h => ⟨h.start, fun x hx => h.characters x (List.mem_append_left _ hx)⟩
  · exact fun h => ⟨h.start, List.forall_mem_append.mpr ⟨h.characters, by simp [isIdentifierChar_underscore]⟩⟩

theorem isIdentifier_underscore : IsIdentifier ['_'] :=
  ⟨by simp [not_isDecimalDigit_underscore], by simp [isIdentifierChar_underscore]⟩

theorem legal_iff {name : String} {cs : List Char} (hnonempty : name ≠ "") (hreserved : name ∉ keywords)
    (hidentifier : IsIdentifier name.toList ↔ Suits cs) : Legal name ↔ Suits cs :=
  ⟨fun h => hidentifier.mp h.identifier, fun h => ⟨hnonempty, hidentifier.mpr h, hreserved⟩⟩

/-! ### Keywords -/

theorem isLower_of_mem_keywords {k : String} (h : k ∈ keywords) : ∀ c, k.toList.head? = some c → c.isLower = true := by
  have hall : ∀ k ∈ keywords, (k.toList.head?.map Char.isLower).getD false = true := by decide +kernel
  intro c hc
  simpa [hc] using hall k h

theorem append_underscore_not_mem_keywords {k : String} (h : k ∈ keywords) : k ++ "_" ∉ keywords := by
  have hall : ∀ k ∈ keywords, k ++ "_" ∉ keywords := by decide +kernel
  exact hall k h

/-- A guarded name that starts with no small letter is no keyword. -/
theorem legal_guardDigit_iff {cs name : List Char} (hcased : Cased cs name) (hne : name ≠ [])
    (hstart : ∀ c, name.head? = some c → c.isLower = false) :
    String.ofList (guardDigit name) ≠ "" ∧ String.ofList (guardDigit name) ∉ keywords ∧
      (Legal (String.ofList (guardDigit name)) ↔ Suits cs) := by
  obtain ⟨c, tail, rfl⟩ := List.exists_cons_of_ne_nil hne
  obtain ⟨d, more, hguard, hd⟩ : ∃ d more, guardDigit (c :: tail) = d :: more ∧ d.isLower = false := by
    unfold guardDigit
    split
    · exact ⟨'_', c :: tail, rfl, rfl⟩
    · exact ⟨c, tail, rfl, hstart c rfl⟩
  have hnonempty : String.ofList (guardDigit (c :: tail)) ≠ "" := by simp [hguard]
  have hreserved : String.ofList (guardDigit (c :: tail)) ∉ keywords := by
    intro hmem
    have hlower := isLower_of_mem_keywords hmem d (by rw [String.toList_ofList, hguard, List.head?_cons])
    simp [hd] at hlower
  refine ⟨hnonempty, hreserved, legal_iff hnonempty hreserved ?_⟩
  rw [String.toList_ofList, isIdentifier_guardDigit_iff, hcased.suits_iff]

theorem legal_underscore : Legal "_" := ⟨by decide, isIdentifier_underscore, by decide⟩

theorem Legal.of_nothing {name : String} (h : Legal name) :
    name ≠ "" ∧ name ∉ keywords ∧ (Legal name ↔ Suits []) :=
  ⟨h.nonempty, h.reserved, fun _ => suits_nil, fun _ => h⟩

/-! ### Fields -/

theorem fieldName_legal_iff (p : String) :
    fieldName p ≠ "" ∧ fieldName p ∉ keywords ∧ (Legal (fieldName p) ↔ Suits (material p.toList)) := by
  have hcased := cased_camelChars p.toList
  have hidentifier := (isIdentifier_guardDigit_iff (camelChars p.toList)).trans hcased.suits_iff
  rw [fieldName]
  generalize hname : guardDigit (camelChars p.toList) = name at hidentifier
  -- A guard adds to a name, and never makes one of nothing.
  have hnil : name = [] ↔ material p.toList = [] := by
    rw [← hname, ← hcased.eq_nil_iff, guardDigit]
    cases camelChars p.toList with
    | nil => simp [startsWithDigit]
    | cons c cs => split <;> simp
  by_cases hempty : name = []
  · have hmaterial := hnil.mp hempty
    simp only [hempty, hmaterial, String.ofList_nil, if_pos]
    exact legal_underscore.of_nothing
  · have hnonempty : String.ofList name ≠ "" := by simpa using hempty
    simp only [hnonempty, if_false, List.contains_iff_mem]
    split
    · rename_i hkeyword
      have hreserved := append_underscore_not_mem_keywords hkeyword
      have hnonempty' : String.ofList name ++ "_" ≠ "" := by simp
      refine ⟨hnonempty', hreserved, legal_iff hnonempty' hreserved ?_⟩
      have htext : (String.ofList name ++ "_").toList = name ++ ['_'] := by simp
      rw [htext, isIdentifier_append_underscore_iff hempty, hidentifier]
    · rename_i hreserved
      exact ⟨hnonempty, hreserved, legal_iff hnonempty hreserved (by rwa [String.toList_ofList])⟩

/-! ### Constants -/

theorem constant_words (cs : List Char) : ((cs.map constantChar).splitOnP (· == '_')).filter (!·.isEmpty) =
    (properWords cs).map (·.map constantChar) := by
  simp only [Text.splitOnP_map, constantChar_eq_underscore_iff, properWords, words, List.filter_map]
  congr 1
  exact List.filter_congr fun w _ => by simp

theorem not_isLower_constantChar (c : Char) : (constantChar c).isLower = false := by
  cases hc : isAlphanumeric c with
  | false => simp [constantChar, hc]
  | true =>
    obtain ⟨d, more, hupper, hraised, -⟩ := Text.uppercase_raised hc
    simpa [constantChar, hc, hupper] using hraised.lower

theorem not_isLower_constants (ws : List (List Char)) :
    ∀ d ∈ List.intercalate ['_'] (ws.map (·.map constantChar)), d.isLower = false := by
  intro d hd
  rw [← Bool.not_eq_true]
  intro hlower
  have hsep : d ∉ ['_'] := by
    rintro hmem
    obtain rfl := List.mem_singleton.mp hmem
    cases hlower
  refine Text.not_mem_intercalate hsep ?_ hd
  intro w hw hmem
  obtain ⟨v, -, rfl⟩ := List.mem_map.mp hw
  obtain ⟨c, -, rfl⟩ := List.mem_map.mp hmem
  simp [not_isLower_constantChar] at hlower

theorem constantName_legal_iff (p : String) :
    constantName p ≠ "" ∧ constantName p ∉ keywords ∧ (Legal (constantName p) ↔ Suits (material p.toList)) := by
  have hcased := Cased.intercalate fun w (hw : w ∈ properWords p.toList) => of_mem_properWords hw
  have hlower := not_isLower_constants (properWords p.toList)
  rw [constantName, constant_words, ← flatten_properWords]
  by_cases hempty : List.intercalate ['_'] ((properWords p.toList).map (·.map constantChar)) = []
  · rw [hempty, hcased.eq_nil_iff.mp hempty]
    exact legal_underscore.of_nothing
  · rw [if_neg (by simpa using hempty)]
    exact legal_guardDigit_iff hcased hempty fun d hd => hlower d (List.mem_of_head? hd)

/-! ### Types -/

theorem not_isLower_capitalized {ws : List (List Char)} (h : ∀ w ∈ ws, ∀ c ∈ w, isAlphanumeric c = true) :
    ∀ d, (ws.map capitalize).flatten.head? = some d → d.isLower = false := by
  induction ws with
  | nil => simp
  | cons w ws ih =>
    cases w with
    | nil => exact ih fun v hv => h v (List.mem_cons_of_mem [] hv)
    | cons c w =>
      obtain ⟨d, more, hupper, hraised, -⟩ := Text.uppercase_raised (h _ List.mem_cons_self c List.mem_cons_self)
      simpa [capitalize, hupper] using hraised.lower

theorem legal_fallbackTypeName : Legal fallbackTypeName := by
  refine ⟨by decide, ⟨?_, List.all_eq_true.mp (by decide +kernel)⟩, by decide⟩
  intro c hc
  obtain rfl : 'T' = c := by simpa [fallbackTypeName] using hc
  decide +kernel

theorem typeName_legal_iff (location : Location) :
    typeName location ≠ "" ∧ typeName location ∉ keywords ∧
      (Legal (typeName location) ↔ Suits ((namingSegments location.pointer).flatMap (material ·.toList))) := by
  let ws := (namingSegments location.pointer).flatMap (words ·.toList)
  have hws : ∀ w ∈ ws, ∀ c ∈ w, isAlphanumeric c = true := by
    intro w hw
    obtain ⟨segment, -, hw⟩ := List.mem_flatMap.mp hw
    exact isAlphanumeric_of_mem_words hw
  have hname : ((namingSegments location.pointer).map fun s => pascalChars s.toList).flatten =
      (ws.map capitalize).flatten := by
    simp [ws, pascalChars, List.flatMap, List.flatten_flatten, Function.comp_def]
  have hmaterial : (namingSegments location.pointer).flatMap (material ·.toList) = ws.flatten := by
    simp [ws, List.flatMap, List.flatten_flatten, flatten_words, Function.comp_def]
  rw [typeName, hname, hmaterial]
  by_cases hempty : (ws.map capitalize).flatten = []
  · rw [hempty, (Cased.flatten hws).eq_nil_iff.mp hempty]
    exact legal_fallbackTypeName.of_nothing
  · rw [if_neg (by simpa using hempty)]
    exact legal_guardDigit_iff (.flatten hws) hempty (not_isLower_capitalized hws)

/-- No name is empty or a keyword, and a name is an identifier exactly if the letters and numbers it is made from can
    stand in one and do not start with a digit of another script than ASCII. -/
theorem names_legal_iff (p : String) (location : Location) :
    (fieldName p ≠ "" ∧ fieldName p ∉ keywords ∧ (Legal (fieldName p) ↔ Suits (material p.toList))) ∧
    (constantName p ≠ "" ∧ constantName p ∉ keywords ∧ (Legal (constantName p) ↔ Suits (material p.toList))) ∧
    (typeName location ≠ "" ∧ typeName location ∉ keywords ∧
      (Legal (typeName location) ↔ Suits ((namingSegments location.pointer).flatMap (material ·.toList)))) :=
  ⟨fieldName_legal_iff p, constantName_legal_iff p, typeName_legal_iff location⟩

/-- A superscript stays in a name, and a digit of another script stays at its start. -/
theorem names_not_legal : ¬Legal (fieldName "x²") ∧ ¬Legal (constantName "x²") ∧
    ¬Legal (fieldName "٣d") ∧ ¬Legal (constantName "٣d") ∧ ∀ root, ¬Legal (typeName ⟨root, "/definitions/x²"⟩) := by
  have hsuperscript : ¬Suits (material "x²".toList) :=
    fun h => absurd (h.characters '²' (by decide +kernel)) (by decide +kernel)
  have hdigit : ¬Suits (material "٣d".toList) := fun h => absurd (h.start '٣' (by decide +kernel)) (by decide +kernel)
  have hsegment : ¬Suits ((namingSegments "/definitions/x²").flatMap (material ·.toList)) :=
    fun h => absurd (h.characters '²' (by decide +kernel)) (by decide +kernel)
  exact ⟨mt (fieldName_legal_iff _).2.2.mp hsuperscript, mt (constantName_legal_iff _).2.2.mp hsuperscript,
    mt (fieldName_legal_iff _).2.2.mp hdigit, mt (constantName_legal_iff _).2.2.mp hdigit,
    fun root => mt (typeName_legal_iff ⟨root, "/definitions/x²"⟩).2.2.mp hsegment⟩

end SchemaBeans.Java
