import SchemaBeans.Java.Identifier
import SchemaBeans.Java.Literal
import SchemaBeans.Numbering
import SchemaBeans.Plan

/-! Strings, and what they become when their values are listed: an enum with the values as arguments of
its constants, or a class with a string constant for each value. -/

namespace SchemaBeans

open Java (Source)

/-- A constant and the text it stands for. -/
structure EnumValue where
  constant : String
  text : String
deriving DecidableEq, Repr

namespace EnumValue

/-- The text that a listed value stands for; `null` stands for none. -/
def text? : Json → Option String
  | .null => none
  | .string s => some s
  | other => some other.render

/-- A value whose constant differs from those before it. -/
def named (values : List EnumValue) (text : String) : EnumValue :=
  let taken := values.map (·.constant)
  ⟨Numbering.pick taken.contains values.length (Java.constantName text) "_", text⟩

def ofList (items : List Json) : List EnumValue :=
  (items.filterMap text?).foldl (fun values text => values ++ [named values text]) []

/-- The constants of an enum, the last one ending the list. -/
def writeConstants : List EnumValue → Source → Source
  | [], source => source
  | value :: rest, source =>
    writeConstants rest
      (source.enumConstant value.constant (some (Java.literal value.text)) rest.isEmpty)

end EnumValue

namespace Generator

/-- The body of an enum: its constants, and the text of each. -/
def writeEnum (t : JavaType) (values : List EnumValue) (source : Source) : Source :=
  -- Members can only follow a list of constants that is ended, even an empty one.
  let source := if values.isEmpty then source.code [";"] else EnumValue.writeConstants values source
  source.blank
    |>.finalField .inside .string "value"
    |>.blank
    |>.openMethod .inside none t.name [(.string, "value")]
    |>.code ["this.value = value;"]
    |>.closeMethod
    |>.blank
    |>.openMethod .everywhere (some .string) "getValue" []
    |>.code ["return value;"]
    |>.closeMethod

/-- The body of a class of constants, which has no instances. -/
def writeConstantsClass (t : JavaType) (values : List EnumValue) (source : Source) : Source :=
  let source := values.foldl
    (fun s v => s.constant .everywhere .string v.constant (Java.literal v.text)) source
  source.blank
    |>.openMethod .inside none t.name []
    |>.closeMethod

def enumSource (style : EnumStyle) (t : JavaType) (values : List EnumValue) : Source :=
  let source := Source.empty.declarePackage t
  match style with
  | .native => (source.withType t .enumType .everywhere fun s => ((), writeEnum t values s)).2
  | .constants =>
    (source.withType t .classType .everywhere fun s => ((), writeConstantsClass t values s)).2

/-- A string, or a type of its own where the values are listed. -/
def string : Generator := fun task =>
  match task.schema.get? "enum" with
  | none => .done (some .string) .empty
  | some listed =>
    if task.features.value Feature.simplePlainTypes then .done (some .string) .empty
    else match listed with
      | .array items =>
        .done (some task.requested)
          (enumSource (task.features.value Feature.enumStyle) task.requested
            (EnumValue.ofList items))
      | _ => .fail (.unsupported task.location .enumNotArray)

end Generator

end SchemaBeans
