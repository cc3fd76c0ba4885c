import SchemaBeans.Proofs.Generator.Plans

/-! What stands in the sources of the built-in generators, with a mark on every type name.

A compilation unit is a type, its imports and rows of fragments, and a fragment is text as it is or a name that
is written for a type. `CompilationUnit.ofMembers` and `CompilationUnit.ofValues` lay out the two kinds of units
there are, and the sources of the generators consist of their lines. -/

namespace SchemaBeans

open Text (openBrace closeBrace)

/-- A type occurs in another: it is that type, or occurs in one of its arguments. -/
inductive JavaType.OccursIn (x : JavaType) : JavaType → Prop
  | self : OccursIn x x
  | argument {t a : JavaType} : a ∈ t.arguments → OccursIn x a → OccursIn x t

namespace Java

/-! ### Fragments -/

/-- A piece of a line: text as it is, or a name that is written for a type. -/
inductive Fragment where
  | verbatim (text : String)
  | name (written : String) (type : JavaType)
deriving DecidableEq, Repr

def Fragment.text : Fragment → String
  | .verbatim text => text
  | .name written _ => written

def Fragment.join (parts : List Fragment) : String := String.join (parts.map Fragment.text)

namespace Fragment

@[simp]
theorem join_nil : join [] = "" := rfl

@[simp]
theorem join_cons (part : Fragment) (parts : List Fragment) : join (part :: parts) = part.text ++ join parts := by
  simp [join]

@[simp]
theorem join_append (parts more : List Fragment) : join (parts ++ more) = join parts ++ join more := by
  simp [join]

end Fragment

namespace Source
variable {s σ : Source}

/-- The name that is written for a type, its arguments aside. -/
def nameFor (s : Source) (t : JavaType) : String := if s.isVisible t then t.name else t.qualifiedName

mutual

/-- The spelling of a type, with each name in it. -/
def fragments (s : Source) : JavaType → List Fragment
  | ⟨package, name, arguments⟩ =>
    let t : JavaType := ⟨package, name, arguments⟩
    .name (s.nameFor t) t ::
      if arguments.isEmpty then [] else .verbatim "<" :: (argumentFragments s arguments ++ [.verbatim ">"])

def argumentFragments (s : Source) : List JavaType → List Fragment
  | [] => []
  | [t] => fragments s t
  | t :: rest => fragments s t ++ .verbatim ", " :: argumentFragments s rest

end

mutual

theorem join_fragments (s : Source) : ∀ t, Fragment.join (s.fragments t) = s.spelling t
  | ⟨package, name, arguments⟩ => by
    rw [fragments, spelling]
    split
    · simp [Fragment.text, nameFor]
    · simp [Fragment.text, nameFor, join_argumentFragments s arguments, String.append_assoc]

theorem join_argumentFragments (s : Source) :
    ∀ ts, Fragment.join (s.argumentFragments ts) = String.intercalate ", " (s.spellings ts)
  | [] => rfl
  | [t] => by
    rw [argumentFragments, spellings, spellings, String.intercalate_singleton]
    exact join_fragments s t
  | t :: u :: rest => by
    have hrest := join_argumentFragments s (u :: rest)
    rw [spellings] at hrest
    rw [argumentFragments, spellings, spellings, String.intercalate_cons_cons, ← hrest]
    · simp [Fragment.text, join_fragments s t, String.append_assoc]
    · simp

end

mutual

theorem spelling_congr (h : ∀ t, s.isVisible t = σ.isVisible t) : ∀ t, s.spelling t = σ.spelling t
  | ⟨package, name, arguments⟩ => by rw [spelling, spelling, h, spellings_congr h arguments]

theorem spellings_congr (h : ∀ t, s.isVisible t = σ.isVisible t) : ∀ ts, s.spellings ts = σ.spellings ts
  | [] => by rw [spellings, spellings]
  | t :: rest => by rw [spellings, spellings, spelling_congr h t, spellings_congr h rest]

end

/-- The spelling of a type between two texts. -/
def around (s : Source) (before : String) (t : JavaType) (after : String) : List Fragment :=
  .verbatim before :: (s.fragments t ++ [.verbatim after])

@[simp]
theorem join_around (before : String) (t : JavaType) (after : String) :
    Fragment.join (s.around before t after) = before ++ (s.spelling t ++ after) := by
  simp [around, Fragment.text, join_fragments]

end Source

/-! ### Units -/

/-- A line of a unit after its imports. -/
inductive Row where
  | blank
  | code (depth : Nat) (parts : List Fragment)
deriving DecidableEq, Repr

def Row.line : Row → Line
  | .blank => .blank
  | .code depth parts => .code depth (Fragment.join parts)

/-- The names in a line, each with the type that it is written for. -/
def Row.names : Row → List (String × JavaType)
  | .blank => []
  | .code _ parts => parts.filterMap fun
    | .verbatim _ => none
    | .name written t => some (written, t)

/-- The source of a type, with the names it imports. -/
structure CompilationUnit where
  type : JavaType
  imports : List String
  rows : List Row
deriving DecidableEq, Repr

namespace CompilationUnit

def lines (u : CompilationUnit) : List Line :=
  .package u.type.package :: (u.imports.map .imports ++ u.rows.map Row.line)

def text (u : CompilationUnit) : String := String.join (u.lines.map Line.text)

/-- The names in the unit, each with the type that it is written for. -/
def names (u : CompilationUnit) : List (String × JavaType) := u.rows.flatMap Row.names

end CompilationUnit

end Java

open Java

/-! ### Classes -/

namespace Member

def fieldRow (s : Source) (m : Member) : Row := .code 1 (s.around "private " m.type (" " ++ m.field ++ ";"))

def accessorRows (s : Source) (m : Member) : List Row :=
  [.blank,
    .code 1 (s.around "public " m.type (" " ++ accessorName "get" m.field ++ "() " ++ openBrace)),
    .code 2 [.verbatim ("return " ++ m.field ++ ";")],
    .code 1 [.verbatim closeBrace],
    .blank,
    .code 1 (.verbatim "public " :: (s.fragments .void ++
      s.around (" " ++ accessorName "set" m.field ++ "(") m.type (" value) " ++ openBrace))),
    .code 2 [.verbatim ("this." ++ m.field ++ " = value;")],
    .code 1 [.verbatim closeBrace]]

/-- The head of the source for a type with given members: its package and imports. -/
def head (t : JavaType) (members : List Member) : Source :=
  members.foldl (fun s m => s.importType m.type) (Source.empty.declarePackage t)

end Member

/-- The rows of a declaration around those of its body. -/
def declarationRows (kind : DeclarationKind) (t : JavaType) (body : List Row) : List Row :=
  .blank :: .code 0 [.verbatim ("public " ++ kind.keyword ++ " " ++ t.name ++ " " ++ openBrace)] ::
    (body ++ [.code 0 [.verbatim closeBrace]])

/-- The rows of a declaration alone, from the line that opens it to the one that closes it. -/
def frameRows (kind : DeclarationKind) (t : JavaType) (body : List Row) : List Row :=
  .code 0 [.verbatim ("public " ++ kind.keyword ++ " " ++ t.name ++ " " ++ openBrace)] ::
    (body ++ [.code 0 [.verbatim closeBrace]])

/-- The unit of a class with given members. -/
def Java.CompilationUnit.ofMembers (t : JavaType) (members : List Member) : CompilationUnit :=
  let s := Member.head t members
  { type := t, imports := s.imported.map (·.1)
    rows := declarationRows .classType t (members.map (Member.fieldRow s) ++ members.flatMap (Member.accessorRows s)) }

/-! ### Listed values -/

namespace EnumValue

def constantRows : List EnumValue → List Row
  | [] => []
  | value :: rest =>
    .code 1 [.verbatim (value.constant ++ "(" ++ Java.literal value.text ++ ")" ++ if rest.isEmpty then ";" else ",")] ::
      constantRows rest

def enumRows (s : Source) (t : JavaType) (values : List EnumValue) : List Row :=
  (if values.isEmpty then [.code 1 [.verbatim ";"]] else constantRows values) ++
  [.blank,
    .code 1 (s.around "private final " .string " value;"),
    .blank,
    .code 1 (s.around ("private " ++ t.name ++ "(") .string (" value) " ++ openBrace)),
    .code 2 [.verbatim "this.value = value;"],
    .code 1 [.verbatim closeBrace],
    .blank,
    .code 1 (s.around "public " .string (" getValue() " ++ openBrace)),
    .code 2 [.verbatim "return value;"],
    .code 1 [.verbatim closeBrace]]

def classRows (s : Source) (t : JavaType) (values : List EnumValue) : List Row :=
  (values.map fun v =>
    .code 1 (s.around "public static final " .string (" " ++ v.constant ++ " = " ++ Java.literal v.text ++ ";"))) ++
  [.blank,
    .code 1 [.verbatim ("private " ++ t.name ++ "() " ++ openBrace)],
    .code 1 [.verbatim closeBrace]]

end EnumValue

/-- The unit of a type for listed values. -/
def Java.CompilationUnit.ofValues (style : EnumStyle) (t : JavaType) (values : List EnumValue) : CompilationUnit :=
  let s := Source.empty.declarePackage t
  { type := t, imports := []
    rows := match style with
      | .native => declarationRows .enumType t (EnumValue.enumRows s t values)
      | .constants => declarationRows .classType t (EnumValue.classRows s t values) }

/-! ### Lines that are written -/

namespace Java.Source

/-- From `s` on, rows were written in which every name denotes what it denotes there. The next line stands at
    the given depth. -/
structure Wrote (s : Source) (rows : List Row) (depth : Nat) (t : Source) : Prop where
  lines : t.lines.toList = s.lines.toList ++ rows.map Row.line
  depth : t.depth = depth
  visible : ∀ x, t.isVisible x = s.isVisible x

namespace Wrote
variable {s t : Source} {rows : List Row} {depth : Nat} (h : Wrote s rows depth t)
include h

theorem spelling (x : JavaType) : t.spelling x = s.spelling x := spelling_congr h.visible x

theorem blank : Wrote s (rows ++ [Row.blank]) depth t.blank := by
  refine ⟨?_, h.depth, h.visible⟩
  simp [Source.blank, Source.write, h.lines, Row.line]

theorem line {parts : List Fragment} {text : String} (ht : Fragment.join parts = text) :
    Wrote s (rows ++ [Row.code depth parts]) depth (t.line text) := by
  refine ⟨?_, h.depth, h.visible⟩
  simp [Source.line, Source.write, h.lines, h.depth, Row.line, ht]

theorem deepen : Wrote s rows (depth + 1) { t with depth := t.depth + 1 } := by
  refine ⟨h.lines, ?_, h.visible⟩
  show t.depth + 1 = depth + 1
  rw [h.depth]

theorem field (x : JavaType) (name : String) :
    Wrote s (rows ++ [Row.code depth (s.around "private " x (" " ++ name ++ ";"))]) depth (t.field .inside x name) := by
  refine h.line ?_
  simp [Visibility.keyword, h.spelling, String.append_assoc]

theorem finalField (x : JavaType) (name : String) :
    Wrote s (rows ++ [Row.code depth (s.around "private final " x (" " ++ name ++ ";"))]) depth
      (t.finalField .inside x name) := by
  refine h.line ?_
  simp [Visibility.keyword, h.spelling, String.append_assoc]

theorem constant (x : JavaType) (name value : String) :
    Wrote s (rows ++ [Row.code depth (s.around "public static final " x (" " ++ name ++ " = " ++ value ++ ";"))]) depth
      (t.constant .everywhere x name value) := by
  refine h.line ?_
  simp [Visibility.keyword, h.spelling, String.append_assoc]

theorem code (statement : String) : Wrote s (rows ++ [Row.code depth [.verbatim statement]]) depth (t.code [statement]) :=
  h.line (by simp [Fragment.text])

omit h in
theorem closeMethod (h : Wrote s rows (depth + 1) t) :
    Wrote s (rows ++ [Row.code depth [.verbatim closeBrace]]) depth t.closeMethod := by
  have hshallow : Wrote s rows depth { t with depth := t.depth - 1 } := by
    refine ⟨h.lines, ?_, h.visible⟩
    show t.depth - 1 = depth
    rw [h.depth, Nat.add_sub_cancel]
  exact hshallow.line (by simp [Fragment.text])

theorem openMethod (visibility : Visibility) (returns : Option JavaType) (name : String)
    (parameters : List (JavaType × String)) {parts : List Fragment}
    (ht : Fragment.join parts = visibility.keyword ++ " " ++ (returns.map fun x => s.spelling x ++ " ").getD "" ++ name ++
      "(" ++ String.intercalate ", " (parameters.map fun p => s.spelling p.1 ++ " " ++ p.2) ++ ") " ++ openBrace) :
    Wrote s (rows ++ [Row.code depth parts]) (depth + 1) (t.openMethod visibility returns name parameters) := by
  simp only [← h.spelling] at ht
  exact (h.line ht).deepen

theorem method (visibility : Visibility) (returns : Option JavaType) (name : String)
    (parameters : List (JavaType × String)) (statement : String) {parts : List Fragment}
    (ht : Fragment.join parts = visibility.keyword ++ " " ++ (returns.map fun x => s.spelling x ++ " ").getD "" ++ name ++
      "(" ++ String.intercalate ", " (parameters.map fun p => s.spelling p.1 ++ " " ++ p.2) ++ ") " ++ openBrace) :
    Wrote s (rows ++ [Row.code depth parts, .code (depth + 1) [.verbatim statement], .code depth [.verbatim closeBrace]]) depth
      ((t.openMethod visibility returns name parameters).code [statement]).closeMethod := by
  simpa using ((h.openMethod visibility returns name parameters ht).code statement).closeMethod

end Wrote

theorem lines_frame {α : Type} {s : Source} {t : JavaType} {kind : DeclarationKind} {body : Source → α × Source}
    {bodyRows : List Row} (hopened : s.opened = []) (hdepth : s.depth = 0) (hdeclared : t.name ∈ s.declared)
    (hbody : ∀ {u rows}, Wrote s rows 1 u → Wrote s (rows ++ bodyRows) 1 (body u).2) :
    (s.withType t kind .everywhere body).2.lines.toList =
      s.lines.toList ++ ((if s.isEmpty then [] else [Row.blank]) ++ frameRows kind t bodyRows).map Row.line := by
  have hstart : Wrote s [] 0 s := ⟨by simp, hdepth, fun _ => rfl⟩
  -- A blank line sets the declaration apart from the head, if there is one.
  have hapart : Wrote s (if s.isEmpty then [] else [.blank]) 0 (if s.isEmpty then s else s.blank) := by
    split
    · exact hstart
    · exact hstart.blank
  have hopen : Wrote s ((if s.isEmpty then [] else [.blank]) ++
      [.code 0 [.verbatim ("public " ++ kind.keyword ++ " " ++ t.name ++ " " ++ openBrace)]]) 1
      (s.openType t kind .everywhere) := by
    have hheader := (hapart.code ("public " ++ kind.keyword ++ " " ++ t.name ++ " " ++ openBrace)).deepen
    have hinsert : s.declared.insert t.name = s.declared := List.insert_of_mem hdeclared
    have hinsert' : s.blank.declared.insert t.name = s.blank.declared := hinsert
    unfold openType
    simp only [hopened, List.isEmpty_nil, Bool.true_and]
    cases hempty : s.isEmpty <;>
      simp only [hempty, Bool.not_false, Bool.not_true, if_true, Bool.false_eq_true, if_false, hinsert,
        hinsert'] at hheader ⊢ <;> exact ⟨hheader.lines, hheader.depth, hheader.visible⟩
  have hclose : (s.withType t kind .everywhere body).2.lines.toList = _ := (hbody hopen).closeMethod.lines
  rw [hclose]
  simp [frameRows]

theorem lines_withType {α : Type} {s : Source} {t : JavaType} {kind : DeclarationKind} {body : Source → α × Source}
    {bodyRows : List Row} (hlines : s.isEmpty = false) (hopened : s.opened = []) (hdepth : s.depth = 0)
    (hdeclared : t.name ∈ s.declared)
    (hbody : ∀ {u rows}, Wrote s rows 1 u → Wrote s (rows ++ bodyRows) 1 (body u).2) :
    (s.withType t kind .everywhere body).2.lines.toList =
      s.lines.toList ++ (declarationRows kind t bodyRows).map Row.line := by
  rw [lines_frame hopened hdepth hdeclared hbody, hlines]
  rfl

end Java.Source

/-! ### Heads of sources -/

namespace Java.Source

/-- The head of a source for a type is written: its package, and imports of types that were seen. None of them
    is of the own package or of `java.lang`, and no two have the same simple name. -/
structure Heads (t : JavaType) (seen : JavaType → Prop) (s : Source) : Prop where
  package : s.package = t.package
  declared : s.declared = [t.name]
  depth : s.depth = 0
  opened : s.opened = []
  lines : s.lines.toList = .package t.package :: s.imported.map fun i => .imports i.1
  imported : ∀ i ∈ s.imported, ∃ x, seen x ∧ i = (x.qualifiedName, x.name) ∧ x.package ≠ "" ∧
    x.package ≠ t.package ∧ x.package ≠ JavaType.langPackage ∧ x.name ≠ t.name
  distinct : ∀ i ∈ s.imported, ∀ j ∈ s.imported, i.2 = j.2 → i = j

namespace Heads
variable {t : JavaType} {seen : JavaType → Prop} {s : Source}

theorem mono {seen' : JavaType → Prop} (h : Heads t seen s) (hseen : ∀ x, seen x → seen' x) : Heads t seen' s := by
  refine ⟨h.package, h.declared, h.depth, h.opened, h.lines, fun i hi => ?_, h.distinct⟩
  obtain ⟨x, hx, hi⟩ := h.imported i hi
  exact ⟨x, hseen x hx, hi⟩

theorem start (ht : t.package ≠ "") : Heads t seen (Source.empty.declarePackage t) := by
  unfold declarePackage
  simp only [ht, if_false]
  refine ⟨rfl, rfl, rfl, rfl, rfl, ?_, ?_⟩
  · intro i hi
    cases hi
  · intro i hi
    cases hi

theorem importNew {x : JavaType} (h : Heads t seen s) (hx : seen x)
    (hnew : s.imported.contains x.qualifiedName = false)
    (hpackage : x.package ≠ "" ∧ x.package ≠ t.package ∧ x.package ≠ JavaType.langPackage) (hname : x.name ≠ t.name)
    (hunused : ∀ i ∈ s.imported, i.2 ≠ x.name) :
    Heads t seen ({ s with imported := s.imported.put x.qualifiedName x.name }.write (.imports x.qualifiedName)) := by
  rw [Table.put_of_not_contains x.name hnew]
  refine ⟨h.package, h.declared, h.depth, h.opened, ?_, fun i hi => ?_, fun i hi j hj heq => ?_⟩
  · simp [write, h.lines]
  · rcases List.mem_append.mp hi with hi | hi
    · exact h.imported i hi
    · obtain rfl := List.mem_singleton.mp hi
      exact ⟨x, hx, rfl, hpackage.1, hpackage.2.1, hpackage.2.2, hname⟩
  · rcases List.mem_append.mp hi with hi | hi <;> rcases List.mem_append.mp hj with hj | hj
    · exact h.distinct i hi j hj heq
    · obtain rfl := List.mem_singleton.mp hj
      exact absurd heq (hunused i hi)
    · obtain rfl := List.mem_singleton.mp hi
      exact absurd heq.symm (hunused j hj)
    · rw [List.mem_singleton.mp hi, List.mem_singleton.mp hj]

theorem importOne {x : JavaType} (h : Heads t seen s) (hx : seen x) : Heads t seen (s.importOne x) := by
  unfold Source.importOne
  split
  · exact ⟨h.package, h.declared, h.depth, h.opened, h.lines, h.imported, h.distinct⟩
  · rename_i hown
    split
    · exact h
    · rename_i hlang
      split
      · exact h
      · rename_i hnew
        split
        · exact h
        · rename_i hfree
          simp only [h.package, h.declared, Bool.and_eq_true, decide_eq_true_eq, Bool.or_eq_true, not_or, not_and,
            List.contains_iff_mem, List.mem_singleton, List.any_eq_true, not_exists] at hown hlang hfree
          exact h.importNew hx (Bool.eq_false_iff.mpr hnew) ⟨hlang.1, fun heq => hown heq hlang.1, hlang.2⟩ hfree.1.1 hfree.2

end Heads

mutual

theorem importType_heads {t : JavaType} {seen : JavaType → Prop} {s : Source} (h : Heads t seen s) :
    ∀ x : JavaType, (∀ y, y.OccursIn x → seen y) → Heads t seen (s.importType x)
  | ⟨package, name, arguments⟩, hseen => by
    rw [importType]
    refine importTypes_heads (h.importOne (hseen _ .self)) arguments fun x hx y hy => ?_
    exact hseen y (.argument hx hy)

theorem importTypes_heads {t : JavaType} {seen : JavaType → Prop} {s : Source} (h : Heads t seen s) :
    ∀ xs : List JavaType, (∀ x ∈ xs, ∀ y, y.OccursIn x → seen y) → Heads t seen (s.importTypes xs)
  | [], _ => by
    rw [importTypes]
    exact h
  | x :: rest, hseen => by
    rw [importTypes]
    refine importTypes_heads (importType_heads h x (hseen x List.mem_cons_self)) rest fun y hy => ?_
    exact hseen y (List.mem_cons_of_mem _ hy)

end

end Java.Source

/-! ### Sources of the generators -/

section Sources
variable {s u : Source} {rows : List Row} {t : JavaType}

theorem Member.imports_heads {seen : JavaType → Prop} (h : s.Heads t seen) (members : List Member)
    (hseen : ∀ m ∈ members, ∀ y, y.OccursIn m.type → seen y) :
    (members.foldl (fun s m => s.importType m.type) s).Heads t seen := by
  induction members generalizing s with
  | nil => exact h
  | cons m rest ih =>
    refine ih (Source.importType_heads h m.type (hseen m List.mem_cons_self)) fun x hx => ?_
    exact hseen x (List.mem_cons_of_mem _ hx)

theorem Member.head_heads (ht : t.package ≠ "") (members : List Member) :
    (head t members).Heads t fun y => ∃ m ∈ members, y.OccursIn m.type :=
  imports_heads (.start ht) members fun m hm _ hy => ⟨m, hm, hy⟩

theorem Member.wrote_accessors (h : s.Wrote rows 1 u) (m : Member) :
    s.Wrote (rows ++ m.accessorRows s) 1 (m.writeAccessors u) := by
  have hgetter : s.Wrote (rows ++ [Row.blank] ++ [
      Row.code 1 (s.around "public " m.type (" " ++ accessorName "get" m.field ++ "() " ++ openBrace)),
      .code 2 [.verbatim ("return " ++ m.field ++ ";")], .code 1 [.verbatim closeBrace]]) 1 _ :=
    h.blank.method .everywhere (some m.type) (accessorName "get" m.field) [] ("return " ++ m.field ++ ";")
      (by simp [Visibility.keyword, String.append_assoc])
  have hsetter : s.Wrote (_ ++ [Row.blank] ++ [
      Row.code 1 (.verbatim "public " :: (s.fragments .void ++
        s.around (" " ++ accessorName "set" m.field ++ "(") m.type (" value) " ++ openBrace))),
      .code 2 [.verbatim ("this." ++ m.field ++ " = value;")], .code 1 [.verbatim closeBrace]]) 1 _ :=
    hgetter.blank.method .everywhere (some .void) (accessorName "set" m.field) [(m.type, "value")]
      ("this." ++ m.field ++ " = value;")
      (by simp [Visibility.keyword, Fragment.text, Source.join_fragments, String.append_assoc])
  simpa [accessorRows, writeAccessors] using hsetter

theorem Member.wrote_all (h : s.Wrote rows 1 u) (members : List Member) :
    s.Wrote (rows ++ (members.map (fieldRow s) ++ members.flatMap (accessorRows s))) 1 (writeAll members u) := by
  have hfields : ∀ {rows u}, s.Wrote rows 1 u → s.Wrote (rows ++ members.map (fieldRow s)) 1
      (members.foldl (fun s m => s.field .inside m.type m.field) u) := by
    induction members with
    | nil => simp
    | cons m rest ih =>
      intro rows u h
      simpa [fieldRow] using ih (h.field m.type m.field)
  have haccessors : ∀ {rows u}, s.Wrote rows 1 u → s.Wrote (rows ++ members.flatMap (accessorRows s)) 1
      (members.foldl writeAccessors u) := by
    clear hfields
    induction members with
    | nil => simp
    | cons m rest ih =>
      intro rows u h
      simpa using ih (wrote_accessors h m)
  simpa [writeAll] using haccessors (hfields h)

theorem EnumValue.wrote_constants (h : s.Wrote rows 1 u) (values : List EnumValue) :
    s.Wrote (rows ++ constantRows values) 1 (writeConstants values u) := by
  induction values generalizing rows u with
  | nil => simpa [constantRows, writeConstants] using h
  | cons value rest ih =>
    rw [writeConstants, constantRows, List.append_cons]
    refine ih (h.line ?_)
    simp [Fragment.text, String.append_assoc]

theorem Generator.wrote_enum (h : s.Wrote rows 1 u) (t : JavaType) (values : List EnumValue) :
    s.Wrote (rows ++ EnumValue.enumRows s t values) 1 (writeEnum t values u) := by
  have hconstants : s.Wrote (rows ++ if values.isEmpty then [Row.code 1 [.verbatim ";"]] else EnumValue.constantRows values) 1
      (if values.isEmpty then u.code [";"] else EnumValue.writeConstants values u) := by
    split
    · exact h.code ";"
    · exact EnumValue.wrote_constants h values
  have hfield : s.Wrote (_ ++ [Row.blank] ++ [Row.code 1 (s.around "private final " .string " value;")]) 1 _ :=
    hconstants.blank.finalField .string "value"
  have hconstructor : s.Wrote (_ ++ [Row.blank] ++ [
      Row.code 1 (s.around ("private " ++ t.name ++ "(") .string (" value) " ++ openBrace)),
      .code 2 [.verbatim "this.value = value;"], .code 1 [.verbatim closeBrace]]) 1 _ :=
    hfield.blank.method .inside none t.name [(.string, "value")] "this.value = value;"
      (by simp [Visibility.keyword, String.append_assoc])
  have hgetter : s.Wrote (_ ++ [Row.blank] ++ [Row.code 1 (s.around "public " .string (" getValue() " ++ openBrace)),
      .code 2 [.verbatim "return value;"], .code 1 [.verbatim closeBrace]]) 1 _ :=
    hconstructor.blank.method .everywhere (some .string) "getValue" [] "return value;"
      (by simp [Visibility.keyword, String.append_assoc])
  simpa [EnumValue.enumRows, writeEnum] using hgetter

theorem Generator.wrote_constantsClass (h : s.Wrote rows 1 u) (t : JavaType) (values : List EnumValue) :
    s.Wrote (rows ++ EnumValue.classRows s t values) 1 (writeConstantsClass t values u) := by
  have hconstants : s.Wrote (rows ++ values.map fun v => Row.code 1 (s.around "public static final " .string
      (" " ++ v.constant ++ " = " ++ Java.literal v.text ++ ";"))) 1
      (values.foldl (fun s v => s.constant .everywhere .string v.constant (Java.literal v.text)) u) := by
    induction values generalizing rows u with
    | nil => simpa using h
    | cons v rest ih => simpa using ih (h.constant .string v.constant (Java.literal v.text))
  have hconstructor : s.Wrote (_ ++ [Row.blank] ++ [Row.code 1 [.verbatim ("private " ++ t.name ++ "() " ++ openBrace)]]) 2 _ :=
    hconstants.blank.openMethod .inside none t.name [] (by simp [Visibility.keyword, Fragment.text, String.append_assoc])
  simpa [EnumValue.classRows, writeConstantsClass] using hconstructor.closeMethod

theorem lines_declaration {α : Type} {kind : DeclarationKind} {body : Source → α × Source} {bodyRows : List Row}
    {seen : JavaType → Prop} (h : s.Heads t seen)
    (hbody : ∀ {u rows}, s.Wrote rows 1 u → s.Wrote (rows ++ bodyRows) 1 (body u).2) :
    (s.withType t kind .everywhere body).2.lines.toList =
      (⟨t, s.imported.map (·.1), declarationRows kind t bodyRows⟩ : CompilationUnit).lines := by
  have hfull : s.isEmpty = false := by
    rw [Source.isEmpty, ← Array.isEmpty_toList, h.lines]
    rfl
  rw [Source.lines_withType hfull h.opened h.depth (by simp [h.declared]) hbody, h.lines, CompilationUnit.lines]
  simp

theorem lines_classSource (ht : t.package ≠ "") (members : List Member) :
    (Generator.classSource t members).lines.toList = (CompilationUnit.ofMembers t members).lines :=
  lines_declaration (Member.head_heads ht members) fun h => Member.wrote_all h members

theorem lines_enumSource (ht : t.package ≠ "") (style : EnumStyle) (values : List EnumValue) :
    (Generator.enumSource style t values).lines.toList = (CompilationUnit.ofValues style t values).lines := by
  have hstart : (Source.empty.declarePackage t).Heads t fun _ => False := .start ht
  have himports : (Source.empty.declarePackage t).imported.map (·.1) = [] := by
    unfold Source.declarePackage
    simp only [ht, if_false]
    rfl
  cases style with
  | native =>
    rw [CompilationUnit.ofValues, ← himports]
    exact lines_declaration hstart fun h => Generator.wrote_enum h t values
  | constants =>
    rw [CompilationUnit.ofValues, ← himports]
    exact lines_declaration hstart fun h => Generator.wrote_constantsClass h t values

end Sources

end SchemaBeans
