import SchemaBeans.Proofs.Java.Units
import SchemaBeans.Proofs.Names.Free

/-! What simple names denote.

A simple name in a unit is that of a primitive type, of the type declared there, of an import, of a type in the
same package, or of a type in `java.lang`, in this order (`Scope.resolve`). Which types are in the package is not
known when a unit is written. Main statement: `CompilationUnit.Told.resolve_iff` says exactly which of the simple
names that are written denote the types they are written for. -/

namespace SchemaBeans

open Text (openBrace)

/-! ### Dotted names -/

theorem Text.splitLast?_dotted (front : String) {name : String} (h : '.' ∉ name.toList) :
    Text.splitLast? '.' (front ++ "." ++ name) = some (front, name) := by
  have hname : ∀ c ∈ name.toList.reverse, (c != '.') = true := by
    intro c hc
    simp only [bne_iff_ne, ne_eq]
    rintro rfl
    exact h (List.mem_reverse.mp hc)
  have hdrop : (front ++ "." ++ name).toList.reverse.dropWhile (· != '.') = '.' :: front.toList.reverse := by
    simp [String.toList_append, List.dropWhile_append_of_pos hname]
  have htake : (front ++ "." ++ name).toList.reverse.takeWhile (· != '.') = name.toList.reverse := by
    simp [String.toList_append, List.takeWhile_append_of_pos hname]
  rw [Text.splitLast?]
  simp only [hdrop, htake]
  simp

namespace JavaType
variable {x y : JavaType}

theorem splitLast?_qualifiedName (hpackage : x.package ≠ "") (hname : '.' ∉ x.name.toList) :
    Text.splitLast? '.' x.qualifiedName = some x.identity := by
  rw [qualifiedName, if_neg hpackage]
  exact Text.splitLast?_dotted x.package hname

theorem identity_eq_of_qualifiedName (hx : x.package ≠ "") (hy : y.package ≠ "") (hx' : '.' ∉ x.name.toList)
    (hy' : '.' ∉ y.name.toList) (h : x.qualifiedName = y.qualifiedName) : x.identity = y.identity := by
  have hsplit := splitLast?_qualifiedName hx hx'
  rw [h, splitLast?_qualifiedName hy hy'] at hsplit
  exact (Option.some.inj hsplit).symm

theorem dot_mem_qualifiedName (h : x.package ≠ "") : '.' ∈ x.qualifiedName.toList := by
  rw [qualifiedName, if_neg h]
  simp [String.toList_append]

end JavaType

theorem JavaType.occursIn_iff {x t : JavaType} : x.OccursIn t ↔ x = t ∨ ∃ a ∈ t.arguments, x.OccursIn a := by
  constructor
  · intro h
    cases h with
    | self => exact Or.inl rfl
    | argument ha hx => exact Or.inr ⟨_, ha, hx⟩
  · rintro (rfl | ⟨a, ha, hx⟩)
    · exact .self
    · exact .argument ha hx

namespace Java

/-! ### Names in units -/

namespace Source

mutual

theorem mem_fragments (s : Source) (written : String) (y : JavaType) :
    ∀ t, .name written y ∈ s.fragments t ↔ y.OccursIn t ∧ written = s.nameFor y
  | ⟨package, name, arguments⟩ => by
    have harguments := mem_argumentFragments s written y arguments
    rw [JavaType.occursIn_iff, fragments]
    cases arguments with
    | nil =>
      simp only [List.isEmpty_nil, if_true, List.mem_singleton, Fragment.name.injEq, List.not_mem_nil, false_and,
        exists_false, or_false]
      exact ⟨fun h => ⟨h.2, h.2 ▸ h.1⟩, fun h => ⟨h.1 ▸ h.2, h.1⟩⟩
    | cons a rest =>
      simp only [List.isEmpty_cons, Bool.false_eq_true, if_false, List.mem_cons, List.mem_append, Fragment.name.injEq,
        reduceCtorEq, List.not_mem_nil, or_false, false_or, harguments]
      constructor
      · rintro (⟨rfl, rfl⟩ | ⟨hy, hw⟩)
        · exact ⟨Or.inl rfl, rfl⟩
        · exact ⟨Or.inr hy, hw⟩
      · rintro ⟨rfl | hy, hw⟩
        · exact Or.inl ⟨hw, rfl⟩
        · exact Or.inr ⟨hy, hw⟩

theorem mem_argumentFragments (s : Source) (written : String) (y : JavaType) :
    ∀ ts, .name written y ∈ s.argumentFragments ts ↔ (∃ t ∈ ts, y.OccursIn t) ∧ written = s.nameFor y
  | [] => by simp [argumentFragments]
  | [t] => by
    rw [argumentFragments, mem_fragments s written y t]
    simp
  | t :: u :: rest => by
    rw [argumentFragments, List.mem_append, List.mem_cons, mem_fragments s written y t,
      mem_argumentFragments s written y (u :: rest)]
    · simp only [List.exists_mem_cons_iff, reduceCtorEq, false_or]
      exact or_and_right.symm
    · simp

end

variable {s : Source} {written : String} {y : JavaType}

@[simp]
theorem mem_around {before after : String} {t : JavaType} :
    .name written y ∈ s.around before t after ↔ .name written y ∈ s.fragments t := by
  simp [around]

end Source

theorem Row.mem_names {depth : Nat} {parts : List Fragment} {written : String} {y : JavaType} :
    (written, y) ∈ (Row.code depth parts).names ↔ .name written y ∈ parts := by
  simp only [names, List.mem_filterMap]
  constructor
  · rintro ⟨_ | _, hpart, heq⟩
    · cases heq
    · cases heq
      exact hpart
  · intro hpart
    exact ⟨_, hpart, rfl⟩

/-- The names in a row are written as a source has them. -/
def Row.Tells (s : Source) : Row → Prop
  | .blank => True
  | .code _ parts => ∀ written y, .name written y ∈ parts → written = s.nameFor y

section Tells
variable {s : Source} {depth : Nat} {t : JavaType}

@[simp]
theorem Row.tells_blank : Row.blank.Tells s := trivial

@[simp]
theorem Row.tells_verbatim (text : String) : (Row.code depth [.verbatim text]).Tells s := by
  intro written y h
  simp at h

@[simp]
theorem Row.tells_around (before : String) (t : JavaType) (after : String) :
    (Row.code depth (s.around before t after)).Tells s := by
  intro written y h
  exact ((s.mem_fragments written y t).mp (Source.mem_around.mp h)).2

theorem tells_declarationRows {kind : DeclarationKind} {body : List Row} (h : ∀ row ∈ body, row.Tells s) :
    ∀ row ∈ declarationRows kind t body, row.Tells s := by
  simpa [declarationRows, or_imp, forall_and] using h

theorem tells_accessorRows (m : Member) : ∀ row ∈ m.accessorRows s, row.Tells s := by
  have hsetter : (Row.code 1 (.verbatim "public " :: (s.fragments .void ++
      s.around (" " ++ accessorName "set" m.field ++ "(") m.type (" value) " ++ openBrace)))).Tells s := by
    intro written y h
    simp only [List.mem_cons, reduceCtorEq, List.mem_append, false_or, Source.mem_around, Source.mem_fragments] at h
    rcases h with h | h
    · exact h.2
    · exact h.2
  simpa [Member.accessorRows] using hsetter

theorem tells_constantRows (values : List EnumValue) : ∀ row ∈ EnumValue.constantRows values, row.Tells s := by
  induction values with
  | nil => simp [EnumValue.constantRows]
  | cons value rest ih => simpa [EnumValue.constantRows] using ih

theorem tells_enumRows (values : List EnumValue) : ∀ row ∈ EnumValue.enumRows s t values, row.Tells s := by
  rw [EnumValue.enumRows, List.forall_mem_append]
  refine ⟨?_, by simp⟩
  split
  · simp
  · exact tells_constantRows values

theorem tells_classRows (values : List EnumValue) : ∀ row ∈ EnumValue.classRows s t values, row.Tells s := by
  simp [EnumValue.classRows, or_imp, forall_and]

end Tells

namespace CompilationUnit
variable {s : Source} {u : CompilationUnit} {t y : JavaType} {written : String}

/-- The names in a unit are written as a source has them, and the source has imported none but types that are
    named in the unit. -/
structure Told (s : Source) (u : CompilationUnit) : Prop where
  heads : s.Heads u.type fun y => ∃ written, (written, y) ∈ u.names
  imports : u.imports = s.imported.map (·.1)
  tells : ∀ row ∈ u.rows, row.Tells s

theorem Told.name_eq (h : Told s u) (hn : (written, y) ∈ u.names) : written = s.nameFor y := by
  obtain ⟨row, hrow, hname⟩ := List.mem_flatMap.mp hn
  cases row with
  | blank => cases hname
  | code depth parts => exact h.tells _ hrow written y (Row.mem_names.mp hname)

theorem told_ofMembers (ht : t.package ≠ "") (members : List Member) :
    Told (Member.head t members) (ofMembers t members) := by
  refine ⟨(Member.head_heads ht members).mono ?_, rfl, tells_declarationRows ?_⟩
  · rintro y ⟨m, hm, hy⟩
    have hrow : m.fieldRow (Member.head t members) ∈ (ofMembers t members).rows := by
      simp only [ofMembers, declarationRows, List.mem_cons, List.mem_append, List.mem_map]
      exact Or.inr (Or.inr (Or.inl (Or.inl ⟨m, hm, rfl⟩)))
    have hpart := ((Member.head t members).mem_fragments _ y m.type).mpr ⟨hy, rfl⟩
    exact ⟨_, List.mem_flatMap.mpr ⟨_, hrow, Row.mem_names.mpr (Source.mem_around.mpr hpart)⟩⟩
  · intro row hrow
    rcases List.mem_append.mp hrow with hrow | hrow
    · obtain ⟨m, -, rfl⟩ := List.mem_map.mp hrow
      exact Row.tells_around _ _ _
    · obtain ⟨m, -, hm⟩ := List.mem_flatMap.mp hrow
      exact tells_accessorRows m row hm

theorem told_ofValues (ht : t.package ≠ "") (style : EnumStyle) (values : List EnumValue) :
    Told (Source.empty.declarePackage t) (ofValues style t values) := by
  refine ⟨.start ht, ?_, ?_⟩
  · simp [Source.declarePackage, ht, ofValues, Source.empty, Source.write]
  · cases style with
    | native => exact tells_declarationRows (tells_enumRows values)
    | constants => exact tells_declarationRows (tells_classRows values)

end CompilationUnit

/-! ### Resolution -/

/-- What the meaning of a simple name depends on: the type of the unit, its imports, and the packages and names of
    types for which there are sources. -/
structure Scope where
  own : JavaType
  imports : List String
  emitted : List (String × String)

namespace Scope

/-- The import of a simple name: what stands before its last dot is the package. -/
def imported? (scope : Scope) (name : String) : Option (String × String) :=
  scope.imports.findSome? fun qualified => (Text.splitLast? '.' qualified).filter (·.2 = name)

/-- Whether a name is a word of the language, for a primitive type or `void`. -/
def isWord (name : String) : Bool := (JavaType.primitives.lookup name).isSome

/-- The package and the name of the type that a simple name denotes. -/
def resolve (scope : Scope) (name : String) : String × String :=
  if isWord name then ("", name)
  else if name = scope.own.name then scope.own.identity
  else match scope.imported? name with
    | some identity => identity
    | none =>
      if (scope.own.package, name) ∈ scope.emitted then (scope.own.package, name) else (JavaType.langPackage, name)

theorem isPrimitive_iff {y : JavaType} : y.isPrimitive = true ↔ y.package = "" ∧ isWord y.name = true := by
  rw [JavaType.isPrimitive, JavaType.boxClass?]
  split <;> rename_i hy <;> simp [hy, isWord]

end Scope

namespace CompilationUnit
variable {s : Source} {u : CompilationUnit} {x y : JavaType} {written : String} {emitted : List (String × String)}

def scope (u : CompilationUnit) (emitted : List (String × String)) : Scope := ⟨u.type, u.imports, emitted⟩

/-- No type that is named in the unit has a dot in its name. -/
def Dotless (u : CompilationUnit) : Prop := ∀ n ∈ u.names, '.' ∉ n.2.name.toList

namespace Told
variable (h : Told s u) (hdots : u.Dotless)
include h hdots

theorem import_cases {i : String × String} (hi : i ∈ s.imported) :
    ∃ x : JavaType, i = (x.qualifiedName, x.name) ∧ Text.splitLast? '.' i.1 = some x.identity ∧ '.' ∉ x.name.toList ∧
      x.package ≠ "" ∧ x.package ≠ u.type.package ∧ x.package ≠ JavaType.langPackage ∧ x.name ≠ u.type.name := by
  obtain ⟨x, ⟨w, hx⟩, rfl, hempty, hown, hlang, hname⟩ := h.heads.imported i hi
  have hdot := hdots (w, x) hx
  exact ⟨x, rfl, JavaType.splitLast?_qualifiedName hempty hdot, hdot, hempty, hown, hlang, hname⟩

theorem imported?_of_mem {i identity : String × String} (hi : i ∈ s.imported)
    (hidentity : Text.splitLast? '.' i.1 = some identity) : (u.scope emitted).imported? i.2 = some identity := by
  have hmem : ∀ q, q ∈ (u.scope emitted).imports ↔ ∃ j ∈ s.imported, j.1 = q := by
    simp [scope, h.imports]
  cases hfound : (u.scope emitted).imported? i.2 with
  | none =>
    obtain ⟨x, rfl, hsplit, -⟩ := h.import_cases hdots hi
    have hnone := List.findSome?_eq_none_iff.mp hfound _ ((hmem _).mpr ⟨_, hi, rfl⟩)
    rw [hsplit] at hnone
    simp [JavaType.identity] at hnone
  | some found =>
    obtain ⟨q, hq, hfilter⟩ := List.exists_of_findSome?_eq_some hfound
    obtain ⟨j, hj, rfl⟩ := (hmem q).mp hq
    obtain ⟨x, rfl, hsplit, -⟩ := h.import_cases hdots hj
    rw [hsplit, Option.filter_eq_some_iff] at hfilter
    obtain ⟨hfound', hname⟩ := hfilter
    cases hfound'
    cases h.heads.distinct _ hj _ hi (of_decide_eq_true hname)
    rw [← hidentity, hsplit]

theorem imported?_eq_none {name : String} (hname : ∀ i ∈ s.imported, i.2 ≠ name) :
    (u.scope emitted).imported? name = none := by
  refine List.findSome?_eq_none_iff.mpr fun q hq => ?_
  obtain ⟨i, hi, rfl⟩ : ∃ i ∈ s.imported, i.1 = q := by simpa [scope, h.imports] using hq
  obtain ⟨x, rfl, hsplit, -⟩ := h.import_cases hdots hi
  rw [hsplit]
  simpa [JavaType.identity] using hname _ hi

theorem not_imported (hy : y.package ≠ "") (hdot : '.' ∉ y.name.toList)
    (hpackage : y.package = u.type.package ∨ y.package = JavaType.langPackage)
    (hfree : ∀ i ∈ s.imported, ¬(i.2 = y.name ∧ i.1 ≠ y.qualifiedName)) : ∀ i ∈ s.imported, i.2 ≠ y.name := by
  intro i hi hname
  have hqualified : i.1 = y.qualifiedName := by
    by_contra hne
    exact hfree i hi ⟨hname, hne⟩
  obtain ⟨x, rfl, -, hxdot, hempty, hown, hlang, -⟩ := h.import_cases hdots hi
  have hsame := JavaType.identity_eq_of_qualifiedName hempty hy hxdot hdot hqualified
  have hsame' : x.package = y.package := congrArg Prod.fst hsame
  rcases hpackage with hp | hp
  · exact hown (hsame'.trans hp)
  · exact hlang (hsame'.trans hp)

/-- Where the unit itself has a source, names that are not imported are those of sources in its package, or of
    types in `java.lang`. -/
theorem resolve_of_not_imported {name : String} (hword : ¬Scope.isWord name) (hown : u.type.identity ∈ emitted)
    (hname : ∀ i ∈ s.imported, i.2 ≠ name) : (u.scope emitted).resolve name =
      if (u.type.package, name) ∈ emitted then (u.type.package, name) else (JavaType.langPackage, name) := by
  rw [Scope.resolve, if_neg hword]
  split
  · rename_i heq
    subst heq
    exact (if_pos hown).symm
  · rw [h.imported?_eq_none hdots hname]
    rfl

theorem resolve_of_imported (hword : ¬Scope.isWord y.name) (hy : y.package ≠ "") (hdot : '.' ∉ y.name.toList)
    (himported : s.imported.contains y.qualifiedName = true) :
    (u.scope emitted).resolve y.name = y.identity ∧ y.package ≠ u.type.package ∧ y.package ≠ JavaType.langPackage := by
  obtain ⟨name, hget⟩ := Option.isSome_iff_exists.mp himported
  have hmem := Table.mem_of_get? hget
  obtain ⟨x, heq, hsplit, hxdot, hempty, hown, hlang, hname⟩ := h.import_cases hdots hmem
  obtain ⟨hqualified, rfl⟩ := Prod.mk.inj heq
  have hsame := JavaType.identity_eq_of_qualifiedName hempty hy hxdot hdot hqualified.symm
  obtain ⟨hpackage, hname'⟩ := Prod.mk.inj hsame
  refine ⟨?_, hpackage ▸ hown, hpackage ▸ hlang⟩
  have hfound : (u.scope emitted).imported? x.name = some x.identity := h.imported?_of_mem hdots hmem hsplit
  have hforeign : x.name ≠ (u.scope emitted).own.name := hname
  rw [← hname'] at hword
  rw [← hname', ← hsame, Scope.resolve, if_neg hword, if_neg hforeign, hfound]

theorem resolve_ne_empty (ht : u.type.package ≠ "") {name : String} (hword : ¬Scope.isWord name) :
    ((u.scope emitted).resolve name).1 ≠ "" := by
  rw [Scope.resolve, if_neg hword]
  split
  · exact ht
  · split
    · rename_i hfound
      obtain ⟨q, hq, hfilter⟩ := List.exists_of_findSome?_eq_some hfound
      obtain ⟨i, hi, rfl⟩ : ∃ i ∈ s.imported, i.1 = q := by simpa [scope, h.imports] using hq
      obtain ⟨x, rfl, hsplit, -, hempty, -⟩ := h.import_cases hdots hi
      rw [hsplit] at hfilter
      cases (Option.filter_eq_some_iff.mp hfilter).1
      exact hempty
    · split
      · exact ht
      · show JavaType.langPackage ≠ ""
        decide

omit hdots in
theorem visible (hn : (written, y) ∈ u.names) (hsimple : '.' ∉ written.toList) : written = y.name ∧ s.isVisible y = true := by
  have hwritten := h.name_eq hn
  unfold Source.nameFor at hwritten
  split at hwritten
  · rename_i hvisible
    exact ⟨hwritten, hvisible⟩
  · rename_i hvisible
    have hpackage : y.package ≠ "" := by
      intro hempty
      simp [Source.isVisible, hempty] at hvisible
    rw [hwritten] at hsimple
    exact absurd (JavaType.dot_mem_qualifiedName hpackage) hsimple

/-- A simple name that is written for a type other than a word of the language denotes it exactly if the type has a
    package and no source comes in between: a type of the own package needs a source, and a type of `java.lang` must
    not have the name of one. -/
theorem resolve_iff_of_not_word (ht : u.type.package ≠ "") (hown : u.type.identity ∈ emitted)
    (hn : (y.name, y) ∈ u.names) (hvisible : s.isVisible y = true) (hword : ¬Scope.isWord y.name) :
    (u.scope emitted).resolve y.name = y.identity ↔ y.package ≠ "" ∧
      (y.package = u.type.package → y.package = JavaType.langPackage ∨ y.identity ∈ emitted) ∧
      (y.package = JavaType.langPackage → y.package ≠ u.type.package → (u.type.package, y.name) ∉ emitted) := by
  have hdot := hdots _ hn
  by_cases hy : y.package = ""
  · refine ⟨fun hresolve => ?_, fun hconditions => absurd hy hconditions.1⟩
    have hne : ((u.scope emitted).resolve y.name).1 ≠ "" := h.resolve_ne_empty hdots ht hword
    rw [hresolve] at hne
    exact absurd hy hne
  simp only [Source.isVisible, h.heads.package, Bool.or_eq_true, Bool.and_eq_true, decide_eq_true_eq, hy, false_or,
    Bool.not_eq_true', List.any_eq_false] at hvisible
  -- A simple name is written for an import, for a neighbour, or for a type of `java.lang`.
  rcases hvisible with (himported | ⟨hpackage, hfree⟩) | ⟨⟨⟨⟨hpackage, hlang⟩, hfree⟩, -⟩, -⟩
  · obtain ⟨hresolve, hother, hlang⟩ : (u.scope emitted).resolve y.name = y.identity ∧ _ :=
      h.resolve_of_imported hdots hword hy hdot himported
    exact ⟨fun _ => ⟨hy, fun heq => absurd heq hother, fun heq => absurd heq hlang⟩, fun _ => hresolve⟩
  · have hnone := h.not_imported hdots hy hdot (Or.inl hpackage) hfree
    rw [h.resolve_of_not_imported hdots hword hown hnone, ← hpackage]
    simp only [JavaType.identity]
    split
    · rename_i hemitted
      exact ⟨fun _ => ⟨hy, fun _ => Or.inr hemitted, fun _ hne => absurd rfl hne⟩, fun _ => rfl⟩
    · rename_i hemitted
      simp only [Prod.mk.injEq, and_true]
      -- Without a source of its own the name falls back to `java.lang`.
      constructor
      · intro heq
        exact ⟨hy, fun _ => Or.inl heq.symm, fun _ hne => absurd rfl hne⟩
      · rintro ⟨-, hsource, -⟩
        exact ((hsource trivial).resolve_right hemitted).symm
  · have hnone := h.not_imported hdots hy hdot (Or.inr hlang) hfree
    rw [h.resolve_of_not_imported hdots hword hown hnone]
    split
    · rename_i hemitted
      refine ⟨fun heq => absurd (congrArg Prod.fst heq).symm hpackage, ?_⟩
      rintro ⟨-, -, hcapture⟩
      exact absurd hemitted (hcapture hlang hpackage)
    · rename_i hemitted
      refine ⟨fun _ => ⟨hy, fun heq => absurd heq hpackage, fun _ _ => hemitted⟩, fun _ => ?_⟩
      rw [JavaType.identity, hlang]

/-- A simple name that is written for a primitive type denotes it, and no word of the language denotes another. -/
theorem resolve_iff (ht : u.type.package ≠ "") (hown : u.type.identity ∈ emitted) (hn : (written, y) ∈ u.names)
    (hsimple : '.' ∉ written.toList) : (u.scope emitted).resolve written = y.identity ↔
      y.isPrimitive ∨ ¬Scope.isWord y.name ∧ y.package ≠ "" ∧
        (y.package = u.type.package → y.package = JavaType.langPackage ∨ y.identity ∈ emitted) ∧
        (y.package = JavaType.langPackage → y.package ≠ u.type.package → (u.type.package, y.name) ∉ emitted) := by
  obtain ⟨rfl, hvisible⟩ := h.visible hn hsimple
  rw [Scope.isPrimitive_iff]
  by_cases hword : Scope.isWord y.name = true
  · have hresolve : (u.scope emitted).resolve y.name = ("", y.name) := by rw [Scope.resolve, if_pos hword]
    rw [hresolve]
    constructor
    · intro heq
      exact Or.inl ⟨(congrArg Prod.fst heq).symm, hword⟩
    · rintro (⟨hy, -⟩ | ⟨hother, -⟩)
      · rw [JavaType.identity, hy]
      · exact absurd hword hother
  · rw [h.resolve_iff_of_not_word hdots ht hown hn hvisible hword]
    simp [hword]

end Told

end CompilationUnit

end Java

end SchemaBeans
