import SchemaBeans.Proofs.Generator.Members
import SchemaBeans.Proofs.Java.Identifiers

/-! Getters called as a method of every object.

Every Java object has a final method `getClass`. A property leads to a getter of that name exactly if it is the one
word `Class`: the field for `class` has an underscore at its end, a second word starts with a capital, a number ends in
a digit, and outside of ASCII no character has the upper case `C`. -/

namespace SchemaBeans

open Java (Source Row Line accessorName fieldName keywords camelChars guardDigit properWords)
open Text (openBrace closeBrace)

/-! ### Upper case C -/

namespace Text

theorem ofNat_eq_C {n : Nat} (h : Char.ofNat n = 'C') : n = 0x43 := by
  by_cases hvalid : n.isValidChar
  · rw [← toNat_charOfNat hvalid, h]
    rfl
  · rw [Char.ofNat, dif_neg hvalid] at h
    cases h

theorem upperRuns_C : upperRuns.all (fun r => !r.covers (0x43 - r.offset).toNat) = true := by decide +kernel

theorem upperExpansions_C : upperExpansions.all (fun e => e.2.head? != some 0x43) = true := by decide +kernel

theorem of_uppercase_C {c : Char} {cs : List Char} (h : uppercase c = 'C' :: cs) : (c = 'c' ∨ c = 'C') ∧ cs = [] := by
  rcases uppercase_cases c with
    ⟨hascii, hupper⟩ | ⟨hfrom, ⟨codes, hcodes, hupper⟩ | ⟨run, hrun, hcovers, hupper⟩ | hupper⟩ <;> rw [hupper] at h
  · have hletters : ∀ c : Char, c.toNat < 0x80 → c.toUpper = 'C' → c = 'c' ∨ c = 'C' :=
      of_ascii_codes (by decide +kernel)
    exact ⟨hletters c hascii (List.cons.inj h).1, (List.cons.inj h).2.symm⟩
  · obtain ⟨code, rest, rfl, hcode, -⟩ := List.map_eq_cons_iff.mp h
    have hhead := List.all_eq_true.mp upperExpansions_C _ hcodes
    simp [ofNat_eq_C hcode] at hhead
  · have hcode := ofNat_eq_C (List.cons.inj h).1
    have hsame : (0x43 - run.offset).toNat = c.toNat := by omega
    have hnone := List.all_eq_true.mp upperRuns_C run hrun
    simp [hsame, hcovers] at hnone
  · obtain ⟨rfl, -⟩ := List.cons.inj h
    exact absurd hfrom (by decide)

end Text

/-! ### Stems -/

namespace Member

theorem stem_eq_iff {field word : String} : stem field = word ↔
    Text.capitalize (field.toList.dropWhile (· == '_')) = word.toList := by
  rw [stem, accessorName, String.empty_append, ← String.toList_inj, String.toList_ofList]

theorem getter_eq_iff (field word : String) : accessorName "get" field = "get" ++ word ↔ stem field = word := by
  simp [accessorName, stem]

theorem capitalize_append_digit {c : Char} (hc : c.isDigit = true) (cs : List Char) :
    ∃ front, Text.capitalize ((cs ++ [c]).dropWhile (· == '_')) = front ++ [c] := by
  have hne : (c == '_') = false := by
    refine beq_eq_false_iff_ne.mpr ?_
    rintro rfl
    exact absurd hc (by decide)
  rw [List.dropWhile_append]
  cases cs.dropWhile (· == '_') with
  | nil => exact ⟨[], by simp [hne, Text.capitalize, Text.uppercase_digit hc]⟩
  | cons x xs => exact ⟨Text.uppercase x ++ xs, by simp [Text.capitalize]⟩

theorem candidate_of_stem_eq {name word : String} {k : Nat} {c : Char} (hword : word.toList.getLast? = some c)
    (hc : c.isDigit = false) (h : stem (Numbering.candidate name "" k) = word) :
    Numbering.candidate name "" k = name := by
  rw [stem_eq_iff, Numbering.toList_candidate] at h
  rcases List.eq_nil_or_concat (Numbering.suffix k) with hnil | ⟨digits, d, hsuffix⟩
  · rw [← String.toList_inj, Numbering.toList_candidate, hnil, List.append_nil]
  · have hd : d.isDigit = true := Numbering.isDigit_of_mem_suffix (by rw [hsuffix]; simp)
    obtain ⟨front, hfront⟩ := capitalize_append_digit hd (name.toList ++ digits)
    rw [hsuffix, List.concat_eq_append, ← List.append_assoc, hfront] at h
    rw [← h, List.getLast?_concat, Option.some.injEq] at hword
    rw [hword, hc] at hd
    cases hd

theorem alphanumeric_of_camelChars {cs rest : List Char} {c : Char} (h : camelChars cs = c :: rest) :
    Text.isAlphanumeric c = true := by
  rw [camelChars, ← properWords] at h
  cases hwords : properWords cs with
  | nil => simp [hwords] at h
  | cons first words =>
    obtain ⟨hne, halphanumeric⟩ := Java.of_mem_properWords (hwords ▸ List.mem_cons_self : first ∈ properWords cs)
    obtain ⟨x, xs, rfl⟩ := List.exists_cons_of_ne_nil hne
    simp only [hwords, List.cons_append, List.cons.injEq] at h
    exact h.1 ▸ halphanumeric x List.mem_cons_self

theorem stem_fieldName {p : String} {c : Char} {rest : List Char} (h : camelChars p.toList = c :: rest) : ∃ tail,
    (stem (fieldName p)).toList = Text.uppercase c ++ (rest ++ tail) ∧ (tail = [] ∨ tail = ['_']) ∧
      (tail = [] → String.ofList (guardDigit (c :: rest)) ∉ keywords) := by
  have hc : (c == '_') = false := by
    refine beq_eq_false_iff_ne.mpr ?_
    rintro rfl
    exact absurd (alphanumeric_of_camelChars h) (by decide)
  -- A word starts with no underscore, so exactly those that were put before it are dropped.
  have hdrop : ∀ tail, (guardDigit (c :: rest) ++ tail).dropWhile (· == '_') = c :: (rest ++ tail) := by
    intro tail
    unfold guardDigit
    split <;> simp [hc]
  have hstem : ∀ {field : String} {tail}, field.toList = guardDigit (c :: rest) ++ tail →
      (stem field).toList = Text.uppercase c ++ (rest ++ tail) := by
    intro field tail hfield
    rw [← stem_eq_iff.mp rfl, hfield, hdrop, Text.capitalize]
  have hnonempty : String.ofList (guardDigit (c :: rest)) ≠ "" := by
    unfold guardDigit
    split <;> simp
  rw [fieldName, h]
  simp only [hnonempty, if_false, List.contains_iff_mem]
  split
  · exact ⟨['_'], hstem (by simp), Or.inr rfl, fun hnil => absurd hnil (by simp)⟩
  · rename_i hreserved
    exact ⟨[], hstem (by simp), Or.inl rfl, fun _ => hreserved⟩

theorem properWords_of_camelChars {cs : List Char} (h : camelChars cs = "Class".toList) :
    properWords cs = ["Class".toList] := by
  rw [camelChars, ← properWords] at h
  cases hwords : properWords cs with
  | nil => simp [hwords] at h
  | cons first rest =>
    rw [hwords] at h
    cases rest with
    | nil => simpa using h
    | cons w ws =>
      -- The capital of a second word would stand among the small letters.
      have hmem : ∀ v ∈ first :: w :: ws, v ≠ [] ∧ ∀ x ∈ v, Text.isAlphanumeric x = true :=
        fun v hv => Java.of_mem_properWords (hwords ▸ hv)
      obtain ⟨x, xs, rfl⟩ := List.exists_cons_of_ne_nil (hmem first (by simp)).1
      obtain ⟨y, ys, rfl⟩ := List.exists_cons_of_ne_nil (hmem w (by simp)).1
      obtain ⟨d, ds, hupper, hraised, -⟩ := Text.uppercase_raised ((hmem (y :: ys) (by simp)).2 y (by simp))
      simp only [List.map_cons, Text.capitalize, hupper, List.flatten_cons, List.cons_append] at h
      have hrest : xs ++ d :: (ds ++ ys ++ (ws.map Text.capitalize).flatten) = "lass".toList := (List.cons.inj h).2
      have hd : d ∈ "lass".toList := hrest ▸ List.mem_append_right xs List.mem_cons_self
      have hlower : "lass".toList.all Char.isLower = true := by decide
      exact absurd (List.all_eq_true.mp hlower d hd) (by simp [hraised.lower])

/-- A property has the accessors of `Class` exactly if that is its only word. -/
theorem stem_fieldName_eq_Class_iff {p : String} :
    stem (fieldName p) = "Class" ↔ properWords p.toList = ["Class".toList] := by
  constructor
  · intro h
    cases hcamel : camelChars p.toList with
    | nil =>
      have hfield : fieldName p = "_" := by simp [fieldName, hcamel, guardDigit, Java.startsWithDigit]
      rw [hfield] at h
      exact absurd h (by decide)
    | cons c rest =>
      obtain ⟨tail, hstem, htail, hreserved⟩ := stem_fieldName hcamel
      obtain ⟨d, ds, hupper, -, -⟩ := Text.uppercase_raised (alphanumeric_of_camelChars hcamel)
      rw [h, hupper, List.cons_append] at hstem
      obtain ⟨hd, hrest⟩ : 'C' = d ∧ "lass".toList = ds ++ (rest ++ tail) := List.cons.inj hstem
      obtain ⟨hc, rfl⟩ := Text.of_uppercase_C (hd ▸ hupper)
      rcases htail with rfl | rfl
      · rw [List.nil_append, List.append_nil] at hrest
        rw [← hrest] at hcamel hreserved
        -- In small letters the word would be a keyword, and have an underscore at its end.
        rcases hc with rfl | rfl
        · exact absurd (by decide) (hreserved rfl)
        · exact properWords_of_camelChars hcamel
      · have hlast := congrArg List.getLast? hrest
        simp at hlast
  · intro h
    have hcamel : camelChars p.toList = "Class".toList := by
      rw [camelChars, ← properWords, h]
      rfl
    rw [fieldName, hcamel]
    decide

end Member

/-! ### Getters of a class -/

namespace Generator

theorem mem_slots {schema : Json} {slot : Slot} : slot ∈ slots schema ↔
    (∃ field ∈ properties schema, field.2.isContainer = true ∧ slot = .property field.1 field.2) ∨
      ∃ node, (schema.get? additionalProperties).filter Json.isContainer = some node ∧ slot = .others node := by
  rw [slots, listedSlots, List.mem_append, List.mem_map, List.mem_map]
  refine or_congr ⟨?_, ?_⟩ ⟨?_, ?_⟩
  · rintro ⟨field, hfield, rfl⟩
    exact ⟨field, (List.mem_filter.mp hfield).1, (List.mem_filter.mp hfield).2, rfl⟩
  · rintro ⟨field, hfield, hcontainer, rfl⟩
    exact ⟨field, List.mem_filter.mpr ⟨hfield, hcontainer⟩, rfl⟩
  · rintro ⟨node, hnode, rfl⟩
    exact ⟨node, Option.mem_toList.mp hnode, rfl⟩
  · rintro ⟨node, hnode, rfl⟩
    exact ⟨node, Option.mem_toList.mpr hnode, rfl⟩

section Fills
variable {D : Location → Option JavaType → Prop} {l : Location} {members : List Member}

/-- The accessors for a word that ends in no digit are there exactly if they are meant for a slot: no number leads to
    them, and the first slot that they are meant for gets them. -/
theorem Fills.mem_stems_iff {rest : List Slot} (h : Fills D l [] rest members) {word : String} {c : Char}
    (hword : word.toList.getLast? = some c) (hc : c.isDigit = false) :
    word ∈ members.map (Member.stem ·.field) ↔ ∃ slot ∈ rest, Member.stem slot.field = word := by
  have hlength := h.holds.length_eq
  constructor
  · intro hmem
    obtain ⟨m, hm, hstem⟩ := List.mem_map.mp hmem
    obtain ⟨i, hi, rfl⟩ := List.mem_iff_getElem.mp hm
    have hslot : rest[i]? = some rest[i] := List.getElem?_eq_getElem (by omega)
    obtain ⟨⟨k, hk⟩, -⟩ := h.kept hslot (List.getElem?_eq_getElem hi)
    -- A number would stand at the end of the stem.
    rw [hk] at hstem
    rw [Member.candidate_of_stem_eq hword hc hstem] at hstem
    exact ⟨rest[i], List.getElem_mem _, hstem⟩
  · rintro ⟨slot, hslot, rfl⟩
    obtain ⟨i, hi, rfl⟩ := List.mem_iff_getElem.mp hslot
    by_cases hbefore : Member.stem rest[i].field ∈ (members.take i).map (Member.stem ·.field)
    · exact List.map_subset _ (List.take_subset i members) hbefore
    · have hm : members[i]? = some members[i] := List.getElem?_eq_getElem (by omega)
      have hkept := (h.kept (List.getElem?_eq_getElem hi) hm).2 (by simpa using hbefore)
      exact List.mem_map.mpr ⟨members[i], List.getElem_mem _, by rw [hkept]⟩

theorem Fills.getClass_iff {schema : Json} (h : Fills D l [] (slots schema) members) :
    "getClass" ∈ members.map (accessorName "get" ·.field) ↔
      ∃ field ∈ properties schema, field.2.isContainer = true ∧ properWords field.1.toList = ["Class".toList] := by
  have hgetters : "getClass" ∈ members.map (accessorName "get" ·.field) ↔
      "Class" ∈ members.map (Member.stem ·.field) := by
    rw [List.mem_map, List.mem_map]
    exact exists_congr fun m => and_congr_right fun _ => Member.getter_eq_iff m.field "Class"
  have hlast : "Class".toList.getLast? = some 's' := by decide
  rw [hgetters, h.mem_stems_iff hlast rfl]
  constructor
  · rintro ⟨slot, hslot, hstem⟩
    rcases mem_slots.mp hslot with ⟨field, hfield, hcontainer, rfl⟩ | ⟨node, -, rfl⟩
    · exact ⟨field, hfield, hcontainer, Member.stem_fieldName_eq_Class_iff.mp hstem⟩
    · have hother : Member.stem additionalProperties ≠ "Class" := by decide
      exact absurd hstem hother
  · rintro ⟨field, hfield, hcontainer, hwords⟩
    exact ⟨.property field.1 field.2, mem_slots.mpr (Or.inl ⟨field, hfield, hcontainer, rfl⟩),
      Member.stem_fieldName_eq_Class_iff.mpr hwords⟩

end Fills

end Generator

namespace Session
variable {ask : Location → Session → Outcome (Option JavaType)} {task : Task} {s t : Session} {a : Option JavaType}

open Generator in
/-- The class that the generator for objects writes has a getter `getClass` exactly if a property with a schema consists
    of the one word `Class`. No other property, no number and no property that is not listed leads to it. -/
theorem getClass_written_iff (h : perform ask Generator.object task s = some (.ok a, t)) :
    ∃ (members : List Member) (preamble : List Line),
      t.written.getLast? = some ⟨task.location, task.requested,
        String.join ((preamble ++ (classRows task.requested members).map Row.line).map Line.text)⟩ ∧
      (∀ line ∈ preamble, line = .blank ∨ (∃ package, line = .package package) ∨
        ∃ qualified, line = .imports qualified) ∧
      ("getClass" ∈ members.map (accessorName "get" ·.field) ↔ ∃ field ∈ properties task.schema,
        field.2.isContainer = true ∧ properWords field.1.toList = ["Class".toList]) := by
  obtain ⟨-, members, hfills, hwritten⟩ := perform_object h
  obtain ⟨preamble, hlines, hpreamble⟩ := lines_class task.requested members
  rw [Source.text, hlines] at hwritten
  exact ⟨members, preamble, hwritten, hpreamble, hfills.getClass_iff⟩

end Session

/-! ### Lessons -/

/-- A document with one schema: a lesson with a class, spelled in two ways. -/
def lessonDocument : Uri × Json :=
  (⟨"urn", "", none, none, none, .rootless "lesson", none, none⟩,
    .object [("properties", .object [("class", .object [("type", .string "string")]),
      ("Class", .object [("type", .string "string")])])])

def lessonTask : Task := ⟨⟨lessonDocument.1, ""⟩, .plain "school" "Lesson", lessonDocument.2, .empty⟩

def lessonSession : Session := .new (.preloaded [lessonDocument]) (.memory .empty []) ⟨"/", []⟩

namespace Session

theorem getClass_written_iff_lesson : ∃ a t, ∃ members : List Member,
    perform (generateWithin 3) Generator.object lessonTask lessonSession = some (.ok a, t) ∧
      "getClass" ∈ members.map (accessorName "get" ·.field) := by
  have hrun : (perform (generateWithin 3) Generator.object lessonTask lessonSession).map (fun r => r.1.toBool) =
      some true := by decide +kernel
  obtain ⟨⟨answer, t⟩, hperform, hanswer⟩ := Option.map_eq_some_iff.mp hrun
  cases answer with
  | error e => cases hanswer
  | ok a =>
    obtain ⟨members, preamble, -, -, hgetter⟩ := getClass_written_iff hperform
    refine ⟨a, t, members, hperform, hgetter.mpr ⟨_, List.mem_cons_of_mem _ List.mem_cons_self, ?_⟩⟩
    decide +kernel

/-- The getter for the property `class` has an underscore at its end, the one for `Class` has not. -/
theorem getClass_declared : (perform (generateWithin 3) Generator.object lessonTask lessonSession).map
    (fun r => (r.1.toBool, r.2.written.map Written.text)) = some (true, [String.join (List.map (· ++ "\n") [
      "package school;",
      "",
      "public class Lesson " ++ openBrace,
      "\tprivate String class_;",
      "\tprivate String Class;",
      "",
      "\tpublic String getClass_() " ++ openBrace,
      "\t\treturn class_;",
      "\t" ++ closeBrace,
      "",
      "\tpublic void setClass_(String value) " ++ openBrace,
      "\t\tthis.class_ = value;",
      "\t" ++ closeBrace,
      "",
      "\tpublic String getClass() " ++ openBrace,
      "\t\treturn Class;",
      "\t" ++ closeBrace,
      "",
      "\tpublic void setClass(String value) " ++ openBrace,
      "\t\tthis.Class = value;",
      "\t" ++ closeBrace,
      closeBrace])]) := by
  decide +kernel

end Session

end SchemaBeans
