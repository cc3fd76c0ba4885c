import SchemaBeans.Generators
import SchemaBeans.Proofs.Java.Nesting

/-! The sources of the built-in generators, as scripts.

Such a source has a head, and one declaration with a body that closes what it opens. So it is written by a well-nested
script (`Source.Scripted`), and every declaration in it is closed when it is complete. -/

namespace SchemaBeans

open Java

/-! ### Scripts of one declaration -/

namespace Java

namespace Script

/-- Actions, and then a script. -/
def ofActions (actions : List Action) (next : Script) : Script := actions.foldr .act next

theorem run_ofActions (actions : List Action) (next : Script) (s : Source) :
    (ofActions actions next).run s = next.run (s.after actions) := by
  induction actions generalizing s with
  | nil => rfl
  | cons a rest ih => exact ih (s.act a)

theorem wellNested_ofActions {actions : List Action} {next : Script} {frames later : List Frame}
    (h : Action.framesAfter? actions frames = some later) (hnext : next.WellNested later) :
    (ofActions actions next).WellNested frames := by
  induction actions generalizing frames with
  | nil =>
    cases h
    exact hnext
  | cons a rest ih =>
    obtain ⟨middle, hmiddle, hrest⟩ := Option.bind_eq_some_iff.mp h
    exact ⟨middle, hmiddle, ih hrest⟩

/-- Entries, and then the declaration of a type with actions for its body. -/
def declaration (head : List Entry) (t : JavaType) (kind : DeclarationKind) (body : List Action) : Script :=
  ofActions (head.map .entry) (.withType t kind .everywhere (ofActions body (.done (.ok ()))) .done)

theorem wellNested_declaration (head : List Entry) (t : JavaType) (kind : DeclarationKind) {body : List Action}
    (h : Action.Balanced body) : (declaration head t kind body).WellNested [] :=
  wellNested_ofActions (Action.balanced_entries head) ⟨wellNested_ofActions h rfl, rfl⟩

theorem run_declaration (head : List Entry) (t : JavaType) (kind : DeclarationKind) (body : List Action) (s : Source) :
    (declaration head t kind body).run s =
      (.ok (), ((head.foldl Source.enter s).withType t kind .everywhere fun u => ((), u.after body)).2) := by
  have hbody : ∀ u, (ofActions body (.done (.ok ()))).run u = (.ok (), u.after body) := run_ofActions body _
  rw [declaration, run_ofActions, Source.after_entries, run, Source.withType, hbody]
  rfl

end Script

namespace Source
variable {source : Source}

/-- A well-nested script writes the source, starting with nothing. -/
def Scripted (source : Source) : Prop := ∃ script : Script, script.WellNested [] ∧ script.run .empty = (.ok (), source)

theorem Scripted.empty : Scripted .empty := ⟨.done (.ok ()), rfl, rfl⟩

theorem Scripted.closed (h : source.Scripted) : source.opened = [] := by
  obtain ⟨script, hnested, hrun⟩ := h
  have hopened := (hnested.framed .empty).opened
  rw [hrun] at hopened
  exact hopened

theorem finish_of_closed (h : source.opened = []) : source.finish = .ok source.text := by
  rw [finish, h]
  rfl

end Source

end Java

/-! ### Classes -/

namespace Member

def accessorActions (m : Member) : List Action :=
  [.entry .blank,
    .openMethod .everywhere (some m.type) (accessorName "get" m.field) [],
    .entry (.code ["return " ++ m.field ++ ";"]),
    .closeMethod,
    .entry .blank,
    .openMethod .everywhere (some .void) (accessorName "set" m.field) [(m.type, "value")],
    .entry (.code ["this." ++ m.field ++ " = value;"]),
    .closeMethod]

def fieldEntries (members : List Member) : List Entry := members.map fun m => .field .inside m.type m.field

def actions (members : List Member) : List Action :=
  (fieldEntries members).map Action.entry ++ members.flatMap accessorActions

theorem after_actions (members : List Member) (s : Source) : s.after (actions members) = writeAll members s := by
  rw [actions, Source.after_append, Source.after_entries, fieldEntries, List.foldl_map, Source.after, List.foldl_flatMap]
  rfl

theorem balanced_actions (members : List Member) : Action.Balanced (actions members) :=
  (Action.balanced_entries _).append (Action.balanced_flatMap fun _ _ => rfl)

end Member

namespace Generator

theorem classSource_scripted (t : JavaType) (members : List Member) : (classSource t members).Scripted := by
  refine ⟨.declaration (.package t :: members.map fun m => .imports m.type) t .classType (Member.actions members),
    Script.wellNested_declaration _ _ _ (Member.balanced_actions members), ?_⟩
  simp only [Script.run_declaration, Member.after_actions, List.foldl_cons, List.foldl_map]
  rfl

theorem classSource_closed (t : JavaType) (members : List Member) : (classSource t members).opened = [] :=
  (classSource_scripted t members).closed

end Generator

/-! ### Listed values -/

namespace EnumValue

def constantEntries : List EnumValue → List Entry
  | [] => []
  | value :: rest =>
    .enumConstant value.constant (some (Java.literal value.text)) rest.isEmpty :: constantEntries rest

theorem after_constantEntries (values : List EnumValue) (s : Source) :
    s.after ((constantEntries values).map .entry) = writeConstants values s := by
  induction values generalizing s with
  | nil => rfl
  | cons value rest ih => exact ih _

def enumActions (t : JavaType) (values : List EnumValue) : List Action :=
  (if values.isEmpty then [Entry.code [";"]] else constantEntries values).map Action.entry ++
  [Action.entry .blank,
    .entry (.finalField .inside .string "value"),
    .entry .blank,
    .openMethod .inside none t.name [(.string, "value")],
    .entry (.code ["this.value = value;"]),
    .closeMethod,
    .entry .blank,
    .openMethod .everywhere (some .string) "getValue" [],
    .entry (.code ["return value;"]),
    .closeMethod]

theorem after_enumActions (t : JavaType) (values : List EnumValue) (s : Source) :
    s.after (enumActions t values) = Generator.writeEnum t values s := by
  have hconstants : s.after ((if values.isEmpty then [Entry.code [";"]] else constantEntries values).map .entry) =
      if values.isEmpty then s.code [";"] else writeConstants values s := by
    split
    · rfl
    · exact after_constantEntries values s
  rw [enumActions, Source.after_append, hconstants]
  rfl

def classActions (t : JavaType) (values : List EnumValue) : List Action :=
  (values.map fun v => Entry.constant .everywhere .string v.constant (Java.literal v.text)).map Action.entry ++
  [Action.entry .blank,
    .openMethod .inside none t.name [],
    .closeMethod]

theorem after_classActions (t : JavaType) (values : List EnumValue) (s : Source) :
    s.after (classActions t values) = Generator.writeConstantsClass t values s := by
  rw [classActions, Source.after_append, Source.after_entries, List.foldl_map]
  rfl

end EnumValue

namespace Generator

theorem enumSource_scripted (style : EnumStyle) (t : JavaType) (values : List EnumValue) :
    (enumSource style t values).Scripted := by
  cases style with
  | native =>
    have hbalanced : Action.Balanced (EnumValue.enumActions t values) := (Action.balanced_entries _).append rfl
    refine ⟨.declaration [.package t] t .enumType _, Script.wellNested_declaration _ _ _ hbalanced, ?_⟩
    simp only [Script.run_declaration, EnumValue.after_enumActions]
    rfl
  | constants =>
    have hbalanced : Action.Balanced (EnumValue.classActions t values) := (Action.balanced_entries _).append rfl
    refine ⟨.declaration [.package t] t .classType _, Script.wellNested_declaration _ _ _ hbalanced, ?_⟩
    simp only [Script.run_declaration, EnumValue.after_classActions]
    rfl

theorem enumSource_closed (style : EnumStyle) (t : JavaType) (values : List EnumValue) :
    (enumSource style t values).opened = [] := (enumSource_scripted style t values).closed

end Generator

end SchemaBeans
