import SchemaBeans.Proofs.Generator.Members
import SchemaBeans.Proofs.Java.Literals

/-! The constants for listed values.

Each value but `null` has one constant, which is named after it. The constants of the values before it are told apart
by numbers. An enum and a class of constants are written from the same values. -/

namespace SchemaBeans

open Java (Source Line Row)

namespace Json

def isNull : Json → Bool
  | .null => true
  | _ => false

/-- What a value reads as among strings: a string as it is, anything else as compact text. -/
def plainText : Json → String
  | .string s => s
  | value => value.render

end Json

namespace EnumValue

/-! ### Values and constants -/

theorem filterMap_text? (items : List Json) :
    items.filterMap text? = (items.filter (!·.isNull)).map Json.plainText := by
  have htext : ∀ item, text? item = if item.isNull then none else some item.plainText := by
    intro item
    cases item <;> rfl
  induction items with
  | nil => rfl
  | cons item items ih =>
    rw [List.filterMap_cons, List.filter_cons, htext]
    cases item.isNull <;> simp [ih]

/-- A value for a text has its constant, with a number or not. -/
def Named (text : String) (v : EnumValue) : Prop :=
  v.text = text ∧ ∃ k, v.constant = Numbering.candidate (Java.constantName text) "_" k

theorem named_constant_not_mem (before : List EnumValue) (text : String) :
    (named before text).constant ∉ before.map (·.constant) := by
  have hfree := Numbering.pick_free (before.map (·.constant)) (Nat.le_of_eq (List.length_map _))
    (fun _ hn => List.contains_iff_mem.mp hn) (Java.constantName text) "_"
  intro hmem
  exact Bool.false_ne_true (hfree.symm.trans (List.contains_iff_mem.mpr hmem))

theorem foldl_named (texts : List String) (before : List EnumValue) (h : (before.map (·.constant)).Nodup) :
    ∃ added, texts.foldl (fun values text => values ++ [named values text]) before = before ++ added ∧
      List.Forall₂ Named texts added ∧ ((before ++ added).map (·.constant)).Nodup := by
  induction texts generalizing before with
  | nil => exact ⟨[], by simp, .nil, by simpa using h⟩
  | cons text texts ih =>
    have hnext : ((before ++ [named before text]).map (·.constant)).Nodup := by
      rw [List.map_append]
      exact h.append (List.nodup_singleton _) (List.disjoint_singleton.mpr (named_constant_not_mem before text))
    obtain ⟨added, hfold, hnamed, hnodup⟩ := ih _ hnext
    refine ⟨named before text :: added, by simpa using hfold, .cons ⟨rfl, _, rfl⟩ hnamed, by simpa using hnodup⟩

theorem ofList_nodup (items : List Json) : ((ofList items).map (·.constant)).Nodup := by
  obtain ⟨added, hfold, -, hnodup⟩ := foldl_named (items.filterMap text?) [] List.nodup_nil
  rw [ofList, hfold]
  exact hnodup

/-- A value stands for a listed one: its literal is read as the string, or as the compact text of another value, and its
    constant starts with the name for that. -/
structure StandsFor (item : Json) (v : EnumValue) : Prop where
  read : Java.readLiteral? (Java.literal v.text) = some item.plainText
  starts : ∃ rest, v.constant = Java.constantName item.plainText ++ rest

theorem ofList_standsFor (items : List Json) :
    List.Forall₂ StandsFor (items.filter (!·.isNull)) (ofList items) := by
  obtain ⟨added, hfold, hnamed, -⟩ := foldl_named (items.filterMap text?) [] List.nodup_nil
  rw [List.nil_append] at hfold
  rw [ofList, hfold]
  rw [filterMap_text?, List.forall₂_map_left_iff] at hnamed
  refine hnamed.imp fun item v hv => ?_
  obtain ⟨htext, k, hconstant⟩ := hv
  refine ⟨by rw [Java.readLiteral?_literal, htext], ?_⟩
  rw [hconstant, Numbering.candidate]
  split
  · exact ⟨"", by simp⟩
  · exact ⟨_, String.append_assoc⟩

/-! ### Layout -/

def nativeText (v : EnumValue) (terminator : String) : String :=
  v.constant ++ "(" ++ Java.literal v.text ++ ")" ++ terminator

/-- The constants of an enum: a semicolon ends the last one, or stands alone where there is none, and commas end all
    others. -/
def nativeTexts (values : List EnumValue) : List String :=
  match values.getLast? with
  | none => [";"]
  | some last => values.dropLast.map (nativeText · ",") ++ [last.nativeText ";"]

/-- The body of the type for listed values: its constants, then what it has whatever the values are. -/
def bodyRows (style : EnumStyle) (s : Source) (t : JavaType) (values : List EnumValue) : List Row :=
  match style with
  | .native => (nativeTexts values).map (fun text => .code 1 [.verbatim text]) ++ (enumRows s t []).tail
  | .constants =>
    values.map (fun v => .code 1 (s.around "public static final " .string
      (" " ++ v.constant ++ " = " ++ Java.literal v.text ++ ";"))) ++ classRows s t []

theorem nativeTexts_cons_cons (v w : EnumValue) (values : List EnumValue) :
    nativeTexts (v :: w :: values) = v.nativeText "," :: nativeTexts (w :: values) := by
  obtain ⟨last, hlast⟩ : ∃ last, (w :: values).getLast? = some last :=
    ⟨_, List.getLast?_eq_some_getLast (List.cons_ne_nil w values)⟩
  simp only [nativeTexts, List.getLast?_cons_cons, hlast, List.dropLast_cons_cons, List.map_cons, List.cons_append]

theorem constantRows_eq (values : List EnumValue) :
    (if values.isEmpty then [.code 1 [.verbatim ";"]] else constantRows values) =
      (nativeTexts values).map (fun text => .code 1 [.verbatim text]) := by
  induction values with
  | nil => rfl
  | cons v values ih =>
    cases values with
    | nil => rfl
    | cons w values =>
      rw [List.isEmpty_cons, if_neg Bool.false_ne_true] at ih ⊢
      rw [constantRows, ih, nativeTexts_cons_cons]
      rfl

def kind : EnumStyle → Java.DeclarationKind
  | .native => .enumType
  | .constants => .classType

/-- The lines of the source for listed values. -/
def sourceLines (style : EnumStyle) (t : JavaType) (values : List EnumValue) : List Line :=
  (if t.package = "" then [] else [.package t.package, .blank]) ++
    (frameRows (kind style) t (bodyRows style (Source.empty.declarePackage t) t values)).map Row.line

theorem lines_values (style : EnumStyle) (t : JavaType) (values : List EnumValue) :
    (Generator.enumSource style t values).lines.toList = sourceLines style t values := by
  have hhead := Generator.precedes_declarePackage t
  have hpreamble : (Source.empty.declarePackage t).lines.toList ++
      (if (Source.empty.declarePackage t).isEmpty then [] else [Row.blank]).map Row.line =
      if t.package = "" then [] else [.package t.package, .blank] := by
    unfold Source.declarePackage
    dsimp only
    split <;> rfl
  rw [sourceLines, ← hpreamble, List.append_assoc, ← List.map_append]
  cases style with
  | native =>
    rw [bodyRows, ← constantRows_eq]
    exact Source.lines_frame hhead.opened hhead.depth hhead.declared fun h => Generator.wrote_enum h t values
  | constants =>
    have hrows : bodyRows .constants (Source.empty.declarePackage t) t values =
        classRows (Source.empty.declarePackage t) t values := by
      simp [bodyRows, classRows]
    rw [hrows]
    exact Source.lines_frame hhead.opened hhead.depth hhead.declared fun h => Generator.wrote_constantsClass h t values

end EnumValue

/-! ### The type for listed values -/

namespace Generator

open EnumValue in
/-- Listed values have the same constants in both styles: one for each value but `null`, in order, and all of them
    different. A string schema with these values gets a type of its own, which is written with these constants and no
    others. -/
theorem listed_values_written (items : List Json) : ∃ values : List EnumValue,
    List.Forall₂ StandsFor (items.filter (!·.isNull)) values ∧ (values.map (·.constant)).Nodup ∧
    ∀ task : Task, task.schema.get? "enum" = some (.array items) →
      task.features.value Feature.simplePlainTypes = false →
      ∃ source, string task = .done (some task.requested) source ∧ source.finish =
        .ok (String.join ((sourceLines (task.features.value Feature.enumStyle) task.requested values).map Line.text)) := by
  refine ⟨ofList items, ofList_standsFor items, ofList_nodup items, fun task hitems hplain => ?_⟩
  refine ⟨enumSource (task.features.value Feature.enumStyle) task.requested (ofList items), ?_, ?_⟩
  · rw [string, hitems]
    simp only [hplain, Bool.false_eq_true, if_false]
  · rw [Source.finish_of_closed (enumSource_closed _ _ _), Source.text, lines_values]

/-! ### A palette -/

/-- Values of which two differ only by case, and one is a number. -/
def paletteItems : List Json := [.string "red", .null, .string "Red", .number (.integer 3)]

def paletteTask : Task :=
  ⟨⟨⟨"urn", "", none, none, none, .rootless "palette", none, none⟩, ""⟩, .plain "shop" "Colour",
    .object [("type", .string "string"), ("enum", .array paletteItems)], .empty⟩

theorem listed_values_written_palette : ∃ values : List EnumValue, values.length = 3 ∧
    (values.map (·.constant)).Nodup ∧ paletteTask.schema.get? "enum" = some (.array paletteItems) ∧
    paletteTask.features.value Feature.simplePlainTypes = false ∧
    ∃ source, string paletteTask = .done (some (.plain "shop" "Colour")) source ∧ source.finish =
      .ok (String.join ((EnumValue.sourceLines .native (.plain "shop" "Colour") values).map Line.text)) := by
  have hitems : paletteTask.schema.get? "enum" = some (.array paletteItems) := rfl
  have hplain : paletteTask.features.value Feature.simplePlainTypes = false := rfl
  obtain ⟨values, hvalues, hnodup, hwritten⟩ := listed_values_written paletteItems
  exact ⟨values, hvalues.length_eq.symm.trans rfl, hnodup, hitems, hplain, hwritten paletteTask hitems hplain⟩

end Generator

end SchemaBeans
