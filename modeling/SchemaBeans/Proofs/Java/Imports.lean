import SchemaBeans.Proofs.Java.Scoping

/-! Imports within one source, and what the names below them denote.

A source declares the package of its type, imports the types it mentions, and opens the declaration. From then on
a type is written as a name with arguments (`Spelled`), and a reader finds the types again by the rules of scoping
(`Scope.type`), where the types of the own package that may be meant are those that are mentioned. Main statement:
`Source.spelled_denotes_iff` says that imports do not clash, and that every type that was mentioned is read back as
itself unless it has a package and goes by the name of a primitive type. -/

namespace SchemaBeans

/-! ### Components -/

namespace JavaType

mutual

/-- A type, its arguments, their arguments and so on. -/
def components : JavaType → List JavaType
  | ⟨package, name, arguments⟩ => ⟨package, name, arguments⟩ :: allComponents arguments

def allComponents : List JavaType → List JavaType
  | [] => []
  | t :: rest => components t ++ allComponents rest

end

mutual

theorem mem_components {y : JavaType} : ∀ {t : JavaType}, y ∈ t.components ↔ y.OccursIn t
  | ⟨package, name, arguments⟩ => by
    rw [components, List.mem_cons, @mem_allComponents y arguments, occursIn_iff]

theorem mem_allComponents {y : JavaType} : ∀ {xs : List JavaType}, y ∈ allComponents xs ↔ ∃ x ∈ xs, y.OccursIn x
  | [] => by simp [allComponents]
  | t :: rest => by
    rw [allComponents, List.mem_append, @mem_components y t, @mem_allComponents y rest]
    simp

end

theorem OccursIn.trans {x y z : JavaType} (hxy : x.OccursIn y) (hyz : y.OccursIn z) : x.OccursIn z := by
  induction hyz with
  | self => exact hxy
  | argument ha _ ih => exact .argument ha ih

end JavaType

namespace Java

/-! ### Written types -/

/-- A type as it is written: a name and arguments. -/
structure Spelled where
  name : String
  arguments : List Spelled

namespace Spelled

mutual

def text : Spelled → String
  | ⟨name, arguments⟩ =>
    if arguments.isEmpty then name else name ++ "<" ++ String.intercalate ", " (texts arguments) ++ ">"

def texts : List Spelled → List String
  | [] => []
  | t :: rest => text t :: texts rest

end

end Spelled

/-- The package and the simple name in a dotted name. -/
def splitName (name : String) : String × String := (Text.splitLast? '.' name).getD ("", name)

namespace Scope

/-- The package and the name of the type that a name denotes. Dotted names denote themselves. -/
def denoted (scope : Scope) (name : String) : String × String :=
  if '.' ∈ name.toList then splitName name else scope.resolve name

mutual

/-- The type that is read where one is written. -/
def type (scope : Scope) : Spelled → JavaType
  | ⟨name, arguments⟩ => ⟨(scope.denoted name).1, (scope.denoted name).2, types scope arguments⟩

def types (scope : Scope) : List Spelled → List JavaType
  | [] => []
  | t :: rest => type scope t :: types scope rest

end

/-- The own type is found before the package is looked at, so it need not be listed there. -/
theorem resolve_own (own : JavaType) (imports : List String) (emitted : List (String × String)) (name : String) :
    (Scope.mk own imports (own.identity :: emitted)).resolve name = (Scope.mk own imports emitted).resolve name := by
  unfold resolve
  dsimp only
  split
  · rfl
  · split
    · rfl
    · rename_i hother
      have hmem : (own.package, name) ∈ own.identity :: emitted ↔ (own.package, name) ∈ emitted := by
        simp [JavaType.identity, hother]
      simp only [imported?, hmem]

end Scope

namespace Source
variable {s : Source} {scope : Scope} {t x y z : JavaType} {xs : List JavaType}

mutual

/-- A type as it is written here. -/
def spelled (s : Source) : JavaType → Spelled
  | ⟨package, name, arguments⟩ => ⟨s.nameFor ⟨package, name, arguments⟩, spelledAll s arguments⟩

def spelledAll (s : Source) : List JavaType → List Spelled
  | [] => []
  | t :: rest => spelled s t :: spelledAll s rest

end

mutual

theorem text_spelled (s : Source) : ∀ t, (s.spelled t).text = s.spelling t
  | ⟨package, name, arguments⟩ => by
    have hempty : (s.spelledAll arguments).isEmpty = arguments.isEmpty := by cases arguments <;> rfl
    rw [spelled, Spelled.text, spelling, hempty, texts_spelledAll s arguments]
    rfl

theorem texts_spelledAll (s : Source) : ∀ ts, Spelled.texts (s.spelledAll ts) = s.spellings ts
  | [] => rfl
  | t :: rest => by rw [spelledAll, Spelled.texts, spellings, text_spelled s t, texts_spelledAll s rest]

end

mutual

/-- A type is read back as itself if all the names that are written for it denote what they are written for. -/
theorem type_spelled_iff (s : Source) (scope : Scope) :
    ∀ t, scope.type (s.spelled t) = t ↔ ∀ z, z.OccursIn t → scope.denoted (s.nameFor z) = z.identity
  | ⟨package, name, arguments⟩ => by
    have harguments := types_spelledAll_iff s scope arguments
    rw [spelled, Scope.type, JavaType.mk.injEq, harguments]
    constructor
    · rintro ⟨hpackage, hname, hrest⟩ z hz
      rcases JavaType.occursIn_iff.mp hz with rfl | ⟨a, ha, hza⟩
      · exact Prod.ext hpackage hname
      · exact hrest a ha z hza
    · intro h
      have hself := h _ .self
      exact ⟨congrArg Prod.fst hself, congrArg Prod.snd hself, fun a ha z hz => h z (.argument ha hz)⟩

theorem types_spelledAll_iff (s : Source) (scope : Scope) : ∀ ts, scope.types (s.spelledAll ts) = ts ↔
    ∀ t ∈ ts, ∀ z, z.OccursIn t → scope.denoted (s.nameFor z) = z.identity
  | [] => by simp [spelledAll, Scope.types]
  | t :: rest => by
    rw [spelledAll, Scope.types, List.cons.injEq, type_spelled_iff s scope t, types_spelledAll_iff s scope rest,
      List.forall_mem_cons]

end

/-! ### Importing -/

/-- The qualified names in the import lines of a source. -/
def importLines (s : Source) : List String :=
  s.lines.toList.filterMap fun
    | .imports qualified => some qualified
    | _ => none

mutual

theorem importType_eq_foldl (s : Source) : ∀ t, s.importType t = t.components.foldl importOne s
  | ⟨package, name, arguments⟩ => by
    rw [importType, JavaType.components, List.foldl_cons, importTypes_eq_foldl _ arguments]

theorem importTypes_eq_foldl (s : Source) : ∀ ts, s.importTypes ts = (JavaType.allComponents ts).foldl importOne s
  | [] => rfl
  | t :: rest => by
    rw [importTypes, JavaType.allComponents, List.foldl_append, importType_eq_foldl s t, importTypes_eq_foldl _ rest]

end

/-- What was mentioned is kept apart: no simple name is imported twice, and the names of the own package that were
    mentioned are known. -/
structure Sorted (mentioned : List JavaType) (s : Source) : Prop where
  names : (s.imported.map (·.2)).Nodup
  neighbours : ∀ y ∈ mentioned, y.package = s.package → y.package ≠ "" → y.name ∈ s.neighbours

theorem Sorted.importOne {mentioned : List JavaType} (h : Sorted mentioned s) (x : JavaType) :
    Sorted (mentioned ++ [x]) (s.importOne x) := by
  unfold Source.importOne
  split
  · rename_i hown
    refine ⟨h.names, fun y hy hpackage hempty => ?_⟩
    rcases List.mem_append.mp hy with hy | hy
    · exact List.mem_insert_of_mem (h.neighbours y hy hpackage hempty)
    · obtain rfl := List.mem_singleton.mp hy
      exact List.mem_insert_self
  · rename_i hforeign
    -- A type of another package is no neighbour, whether it gets an import or not.
    have hneighbours : ∀ y ∈ mentioned ++ [x], y.package = s.package → y.package ≠ "" → y.name ∈ s.neighbours := by
      intro y hy hpackage hempty
      rcases List.mem_append.mp hy with hy | hy
      · exact h.neighbours y hy hpackage hempty
      · obtain rfl := List.mem_singleton.mp hy
        exact absurd (by simp [hpackage, hpackage ▸ hempty]) hforeign
    split
    · exact ⟨h.names, hneighbours⟩
    · split
      · exact ⟨h.names, hneighbours⟩
      · rename_i hnew
        split
        · exact ⟨h.names, hneighbours⟩
        · rename_i hunused
          refine ⟨?_, hneighbours⟩
          -- The simple name is neither declared nor imported yet.
          have hfresh : x.name ∉ s.imported.map (·.2) := by
            simp only [Bool.or_eq_true, not_or, List.any_eq_true, decide_eq_true_eq, not_exists, not_and] at hunused
            intro hmem
            obtain ⟨i, hi, hname⟩ := List.mem_map.mp hmem
            exact hunused.2 i hi hname
          show ((s.imported.put x.qualifiedName x.name).map (·.2)).Nodup
          rw [Table.put_of_not_contains x.name (Bool.eq_false_iff.mpr hnew), List.map_append]
          exact h.names.append (List.nodup_singleton _) (List.disjoint_singleton.mpr hfresh)

theorem Sorted.importAll {mentioned : List JavaType} (h : Sorted mentioned s) (ys : List JavaType) :
    Sorted (mentioned ++ ys) (ys.foldl Source.importOne s) := by
  induction ys generalizing mentioned s with
  | nil => simpa using h
  | cons y rest ih => simpa using ih (h.importOne y)

/-! ### Heads with their types -/

/-- A source for a type up to its declaration: the package, and imports of what is mentioned. -/
def head (t : JavaType) (xs : List JavaType) : Source := (Source.empty.declarePackage t).importTypes xs

/-- The scope in which the types that a source mentions are read. -/
def scopeFor (s : Source) (t : JavaType) (xs : List JavaType) : Scope :=
  ⟨t, s.importLines, (JavaType.allComponents xs).map JavaType.identity⟩

theorem head_heads (ht : t.package ≠ "") (xs : List JavaType) : (head t xs).Heads t (· ∈ JavaType.allComponents xs) :=
  importTypes_heads (.start ht) xs fun _ hx _ hy => JavaType.mem_allComponents.mpr ⟨_, hx, hy⟩

theorem head_sorted (ht : t.package ≠ "") (xs : List JavaType) : Sorted (JavaType.allComponents xs) (head t xs) := by
  have hstart : Sorted [] (Source.empty.declarePackage t) := by
    refine ⟨?_, by simp⟩
    simp [declarePackage, ht, Source.empty, write]
  rw [head, importTypes_eq_foldl]
  exact hstart.importAll _

section Opened
variable {seen : JavaType → Prop} (h : s.Heads t seen) (kind : DeclarationKind) (visibility : Visibility)
include h

theorem Heads.importLines_openType : (s.openType t kind visibility).importLines = s.imported.map (·.1) := by
  have hfull : s.isEmpty = false := by
    rw [Source.isEmpty, ← Array.isEmpty_toList, h.lines]
    rfl
  have himports : (s.imported.map fun i => Line.imports i.1).filterMap (fun
      | .imports qualified => some qualified
      | _ => none) = s.imported.map (·.1) := by
    induction s.imported <;> simp_all
  simp [importLines, openType, h.opened, hfull, Source.line, Source.blank, write, h.lines, himports]

theorem Heads.isVisible_openType (x : JavaType) : (s.openType t kind visibility).isVisible x = s.isVisible x := by
  have hdeclared : s.declared.insert t.name = s.declared := List.insert_of_mem (by simp [h.declared])
  unfold openType
  split <;> simp [isVisible, Source.line, Source.blank, write, hdeclared]

end Opened

/-- A unit that has the head of a source and mentions its types. -/
def mention (t : JavaType) (xs : List JavaType) : CompilationUnit :=
  let s := head t xs
  { type := t, imports := s.imported.map (·.1), rows := [.code 0 (xs.flatMap s.fragments)] }

theorem mem_mention {written : String} :
    (written, y) ∈ (mention t xs).names ↔ y ∈ JavaType.allComponents xs ∧ written = (head t xs).nameFor y := by
  simp only [mention, CompilationUnit.names, List.flatMap_cons, List.flatMap_nil, List.append_nil, Row.mem_names,
    List.mem_flatMap, mem_fragments, JavaType.mem_allComponents]
  constructor
  · rintro ⟨x, hx, hy, hwritten⟩
    exact ⟨⟨x, hx, hy⟩, hwritten⟩
  · rintro ⟨⟨x, hx, hy⟩, hwritten⟩
    exact ⟨x, hx, hy, hwritten⟩

theorem mention_told (ht : t.package ≠ "") (xs : List JavaType) : (mention t xs).Told (head t xs) := by
  refine ⟨(head_heads ht xs).mono fun y hy => ⟨_, mem_mention.mpr ⟨hy, rfl⟩⟩, rfl, fun row hrow => ?_⟩
  obtain rfl := List.mem_singleton.mp hrow
  intro written y hy
  exact (mem_mention.mp (List.mem_flatMap.mpr ⟨_, hrow, Row.mem_names.mpr hy⟩)).2

/-! ### Reading back -/

section Reading
variable (ht : t.package ≠ "")
  (hxs : ∀ y ∈ JavaType.allComponents xs, (y.isPrimitive ∨ y.package ≠ "") ∧ '.' ∉ y.name.toList)
include ht hxs

omit ht in
theorem mention_dotless : (mention t xs).Dotless := by
  rintro ⟨written, y⟩ hn
  exact (hxs y (mem_mention.mp hn).1).2

/-- An import is that of a type that is neither of the own package nor of `java.lang`, and has another name than
    the own type. -/
theorem split_import {i : String × String} (hi : i ∈ (head t xs).imported) :
    (splitName i.1).2 = i.2 ∧ i.2 ≠ t.name ∧ (splitName i.1).1 ≠ t.package ∧ (splitName i.1).1 ≠ JavaType.langPackage := by
  obtain ⟨x, rfl, hsplit, -, -, hown, hlang, hname⟩ :=
    (mention_told ht xs).import_cases (mention_dotless hxs) hi
  have hidentity : splitName x.qualifiedName = x.identity := by rw [splitName, hsplit, Option.getD_some]
  rw [hidentity]
  exact ⟨rfl, hname, hown, hlang⟩

theorem resolve_mentioned (hy : y ∈ JavaType.allComponents xs) (hvisible : (head t xs).isVisible y = true)
    (hword : ¬Scope.isWord y.name) :
    ((mention t xs).scope (t.identity :: (JavaType.allComponents xs).map JavaType.identity)).resolve y.name =
      y.identity := by
  have htold := mention_told ht xs
  have hdots : (mention t xs).Dotless := mention_dotless hxs
  have hpackage : y.package ≠ "" := by
    rcases (hxs y hy).1 with hprimitive | hpackage
    · exact absurd (Scope.isPrimitive_iff.mp hprimitive).2 hword
    · exact hpackage
  have hname : (y.name, y) ∈ (mention t xs).names := mem_mention.mpr ⟨hy, by rw [nameFor, if_pos hvisible]⟩
  refine (htold.resolve_iff_of_not_word hdots ht List.mem_cons_self hname hvisible hword).mpr ⟨hpackage, ?_, ?_⟩
  · intro _
    exact Or.inr (List.mem_cons_of_mem _ (List.mem_map_of_mem hy))
  · intro hlang hforeign hcaptured
    -- A type of `java.lang` is visible only while its name is neither that of the own type nor of a neighbour.
    have hunused : y.name ≠ t.name ∧ y.name ∉ (head t xs).neighbours := by
      have hnew : (head t xs).imported.contains y.qualifiedName = false := by
        by_contra himported
        rw [Bool.not_eq_false] at himported
        have hother : ((mention t xs).scope []).resolve y.name = y.identity ∧ _ :=
          htold.resolve_of_imported hdots hword hpackage (hxs y hy).2 himported
        exact hother.2.2 hlang
      have hforeign' : y.package ≠ (head t xs).package := htold.heads.package ▸ hforeign
      simp only [isVisible, Bool.or_eq_true, Bool.and_eq_true, decide_eq_true_eq, hpackage, hnew, hforeign', false_or,
        false_and, Bool.false_eq_true, htold.heads.declared, Bool.not_eq_true', List.contains_eq_mem,
        decide_eq_false_iff_not, List.mem_singleton] at hvisible
      exact ⟨hvisible.1.2, hvisible.2⟩
    rcases List.mem_cons.mp hcaptured with heq | hmem
    · exact hunused.1 (congrArg Prod.snd heq)
    · obtain ⟨z, hz, heq⟩ := List.mem_map.mp hmem
      have hzpackage : z.package = t.package := congrArg Prod.fst heq
      have hzname : z.name = y.name := congrArg Prod.snd heq
      have hneighbour := (head_sorted ht xs).neighbours z hz (hzpackage.trans htold.heads.package.symm) (hzpackage ▸ ht)
      exact hunused.2 (hzname ▸ hneighbour)

/-- The name that is written for a type denotes it, unless the type has a package and the name is a word of the
    language. -/
theorem denoted_nameFor_iff (hy : y ∈ JavaType.allComponents xs) :
    (Scope.mk t ((head t xs).imported.map (·.1)) ((JavaType.allComponents xs).map JavaType.identity)).denoted
      ((head t xs).nameFor y) = y.identity ↔
      (y.package ≠ "" → Scope.isWord y.name → (head t xs).nameFor y ≠ y.name) := by
  have hdot := (hxs y hy).2
  by_cases hvisible : (head t xs).isVisible y = true
  · rw [nameFor, if_pos hvisible, Scope.denoted, if_neg hdot]
    by_cases hword : Scope.isWord y.name = true
    · rw [Scope.resolve, if_pos hword]
      by_cases hpackage : y.package = ""
      · simp [JavaType.identity, hpackage]
      · simp [JavaType.identity, hword, hpackage, Ne.symm hpackage]
    · have hresolve := resolve_mentioned ht hxs hy hvisible hword
      rw [CompilationUnit.scope, mention, Scope.resolve_own] at hresolve
      simp [hresolve, hword]
  -- A type that is not visible has a package, so its name is written with a dot.
  · have hpackage : y.package ≠ "" := by
      intro hempty
      simp [isVisible, hempty] at hvisible
    have hqualified := JavaType.dot_mem_qualifiedName hpackage
    rw [nameFor, if_neg hvisible, Scope.denoted, if_pos hqualified, splitName,
      JavaType.splitLast?_qualifiedName hpackage hdot, Option.getD_some]
    have hne : y.qualifiedName ≠ y.name := fun heq => hdot (heq ▸ hqualified)
    simp [hne]

end Reading

/-- After a type with a package has been declared, types have been mentioned in any order and the declaration has been
    opened: no two imports share a qualified or a simple name, none has the name of the declared type, its package or
    `java.lang`, and every type that was mentioned, also as an argument, is written so that it is read back as itself
    exactly if no type with a package is written in it by the name of a primitive type. -/
theorem spelled_denotes_iff (t : JavaType) (xs : List JavaType) (kind : DeclarationKind) (visibility : Visibility)
    (ht : t.package ≠ "")
    (hxs : ∀ y ∈ JavaType.allComponents xs, (y.isPrimitive ∨ y.package ≠ "") ∧ '.' ∉ y.name.toList) :
    let s := ((Source.empty.declarePackage t).importTypes xs).openType t kind visibility
    s.importLines.Nodup ∧ (s.importLines.map fun q => (splitName q).2).Nodup ∧
    (∀ q ∈ s.importLines, (splitName q).2 ≠ t.name ∧ (splitName q).1 ≠ t.package ∧
      (splitName q).1 ≠ JavaType.langPackage) ∧
    ∀ y ∈ JavaType.allComponents xs, (s.spelled y).text = s.spelling y ∧
      ((s.scopeFor t xs).type (s.spelled y) = y ↔
        ∀ z ∈ y.components, z.package ≠ "" → Scope.isWord z.name → s.nameFor z ≠ z.name) := by
  intro s
  have hheads := head_heads ht xs
  have hlines : s.importLines = (head t xs).imported.map (·.1) := hheads.importLines_openType kind visibility
  have hname : ∀ y, s.nameFor y = (head t xs).nameFor y := by
    intro y
    have hvisible : s.isVisible y = (head t xs).isVisible y := hheads.isVisible_openType kind visibility y
    rw [nameFor, nameFor, hvisible]
  have hsimple : (s.importLines.map fun q => (splitName q).2) = (head t xs).imported.map (·.2) := by
    rw [hlines, List.map_map]
    exact List.map_congr_left fun i hi => (split_import ht hxs hi).1
  have hnodup : (s.importLines.map fun q => (splitName q).2).Nodup := hsimple ▸ (head_sorted ht xs).names
  refine ⟨hnodup.of_map, hnodup, fun q hq => ?_, fun y hy => ⟨text_spelled s y, ?_⟩⟩
  · obtain ⟨i, hi, rfl⟩ := List.mem_map.mp (hlines ▸ hq)
    obtain ⟨heq, hother⟩ := split_import ht hxs hi
    exact heq ▸ hother
  · rw [type_spelled_iff]
    refine forall_congr' fun z => ?_
    rw [← JavaType.mem_components]
    refine forall_congr' fun hz => ?_
    have hlisted : z ∈ JavaType.allComponents xs := by
      obtain ⟨x, hx, hyx⟩ := JavaType.mem_allComponents.mp hy
      exact JavaType.mem_allComponents.mpr ⟨x, hx, (JavaType.mem_components.mp hz).trans hyx⟩
    rw [hname, scopeFor, hlines]
    exact denoted_nameFor_iff ht hxs hlisted

/-! ### Items -/

def itemType : JavaType := .plain "shop" "Item"

/-- A map from strings to the parts of another package. -/
def partsByLabel : JavaType := ⟨"java.util", "Map", [.string, .plain "units" "Part"]⟩

/-- Parts of two packages, a string of the own package, and the primitive type `long` beside a type of that name. -/
def itemMentions : List JavaType :=
  [partsByLabel, .plain "shop" "Part", .plain "shop" "String", .long, .plain "units" "long"]

def itemSource (xs : List JavaType) : Source :=
  ((Source.empty.declarePackage itemType).importTypes xs).openType itemType .classType .everywhere

/-- A map whose arguments clash with types of the own package is read back as itself. -/
theorem spelled_denotes_iff_item : itemType.package ≠ "" ∧
    (∀ y ∈ JavaType.allComponents itemMentions, (y.isPrimitive ∨ y.package ≠ "") ∧ '.' ∉ y.name.toList) ∧
    ((itemSource itemMentions).scopeFor itemType itemMentions).type ((itemSource itemMentions).spelled partsByLabel) =
      partsByLabel := by
  have hpackage : itemType.package ≠ "" := by decide
  have hmentions : ∀ y ∈ JavaType.allComponents itemMentions,
      (y.isPrimitive ∨ y.package ≠ "") ∧ '.' ∉ y.name.toList := by decide +kernel
  have hread := (spelled_denotes_iff itemType itemMentions .classType .everywhere hpackage hmentions).2.2.2
    partsByLabel (by decide +kernel)
  exact ⟨hpackage, hmentions, hread.2.mpr (by decide +kernel)⟩

/-- The type `units.long` is imported and written as `long`, as is the primitive type, so that no reading of what is
    written can tell them apart. -/
theorem word_named_type_misread :
    (∀ y ∈ JavaType.allComponents [.plain "units" "long", .long], (y.isPrimitive ∨ y.package ≠ "") ∧ '.' ∉ y.name.toList) ∧
    let s := itemSource [.plain "units" "long", .long]
    s.importLines = ["units.long"] ∧ s.spelling (.plain "units" "long") = "long" ∧ s.spelling .long = "long" ∧
    (s.scopeFor itemType [.plain "units" "long", .long]).type (s.spelled (.plain "units" "long")) ≠ .plain "units" "long" ∧
    ∀ reading : String → JavaType, ¬(reading (s.spelling (.plain "units" "long")) = .plain "units" "long" ∧
      reading (s.spelling .long) = .long) := by
  refine ⟨by decide +kernel, ?_⟩
  have hforeign : (itemSource [.plain "units" "long", .long]).spelling (.plain "units" "long") = "long" := by decide +kernel
  have hprimitive : (itemSource [.plain "units" "long", .long]).spelling .long = "long" := by decide +kernel
  refine ⟨by decide +kernel, hforeign, hprimitive, by decide +kernel, ?_⟩
  rintro reading ⟨h₁, h₂⟩
  rw [hforeign] at h₁
  rw [hprimitive, h₁] at h₂
  exact absurd h₂ (by decide)

end Source

end Java

end SchemaBeans
