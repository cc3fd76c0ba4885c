import SchemaBeans.Java.Identifier
import SchemaBeans.Numbering
import SchemaBeans.Plan

/-! Objects become classes: a field for each property, and a getter and a setter for each field. -/

namespace SchemaBeans

open Java (Source)

/-- A field of a class. -/
structure Member where
  field : String
  type : JavaType
deriving DecidableEq, Repr

namespace Member

/-- What the names of a field's accessors have in common. -/
def stem (field : String) : String := Java.accessorName "" field

/-- A field with a name whose accessors differ from those of the members before it. -/
def named (members : List Member) (name : String) (type : JavaType) : Member :=
  let stems := members.map (stem ·.field)
  ⟨Numbering.pick (fun candidate => stems.contains (stem candidate)) members.length name "", type⟩

def writeAccessors (source : Source) (member : Member) : Source :=
  let getter := source.blank
    |>.openMethod .everywhere (some member.type) (Java.accessorName "get" member.field) []
    |>.code ["return " ++ member.field ++ ";"]
    |>.closeMethod
  getter.blank
    |>.openMethod .everywhere (some JavaType.void) (Java.accessorName "set" member.field)
      [(member.type, "value")]
    |>.code ["this." ++ member.field ++ " = value;"]
    |>.closeMethod

/-- The fields of a class, then their accessors. -/
def writeAll (members : List Member) (source : Source) : Source :=
  let fields := members.foldl (fun s m => s.field .inside m.type m.field) source
  members.foldl writeAccessors fields

end Member

namespace Generator

/-- The field for properties that the schema does not list. -/
def additionalProperties : String := "additionalProperties"

def classSource (t : JavaType) (members : List Member) : Source :=
  let source := members.foldl (fun s m => s.importType m.type) (Source.empty.declarePackage t)
  (source.withType t .classType .everywhere fun s => ((), Member.writeAll members s)).2

/-- The properties that the schema of a task lists, in order. -/
def properties (schema : Json) : List (String × Json) :=
  match schema.get? "properties" with
  | some (.object fields) => fields
  | _ => []

/-- Goes through properties below a location and adds a member for each that has a schema. -/
def collect (base : Location) :
    List (String × Json) → List Member → (List Member → Plan) → Plan
  | [], members, next => next members
  | (name, node) :: rest, members, next =>
    let location := base.child name
    Plan.childType location node fun
      | some t => collect base rest (members ++ [.named members (Java.fieldName name) t]) next
      | none =>
        -- A value without parts is no schema.
        .note ⟨.objectGenerator, .warn, location.text ++ ": not a container value, skipping property"⟩
          (collect base rest members next)

/-- Adds the member for properties that are not listed, if they have a schema. -/
def collectAdditional (task : Task) (members : List Member) (next : List Member → Plan) : Plan :=
  match task.schema.get? additionalProperties with
  | none => next members
  | some node => Plan.childType (task.location.child additionalProperties) node fun
    | some t => next (members ++ [.named members additionalProperties t.mapOf])
    | none => next members

/-- A class for an object schema. -/
def object : Generator := fun task =>
  collect (task.location.child "properties") (properties task.schema) [] fun listed =>
    collectAdditional task listed fun members =>
      .done (some task.requested) (classSource task.requested members)

end Generator

end SchemaBeans
