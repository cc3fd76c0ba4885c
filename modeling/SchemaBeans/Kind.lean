import SchemaBeans.Error
import SchemaBeans.Json.Printer

/-! The kind of a schema, which decides on its generator.

A schema names its kind, or lists kinds, of which `null` does not count. One that says nothing is taken
for an object. -/

namespace SchemaBeans.Kind

def keyword : String := "type"

/-- The kind of a schema that does not name one. -/
def fallback : String := "object"

def listed (items : List Json) : List String :=
  (items.filterMap Json.string?).filter (· ≠ "null")

/-- The kind of a schema at a location; nothing for `null`. -/
def of (location : Location) (schema : Json) : Except Error (Option String) :=
  match schema.get? keyword with
  | none => .ok (some fallback)
  | some (.string kind) => .ok (if kind = "null" then none else some kind)
  | some (.array items) => match listed items with
    -- No kind but `null` was listed.
    | [] => .ok none
    | [kind] => .ok (some kind)
    | kinds => .error (.unsupportedKind location (String.intercalate ", " kinds))
  | some other => .error (.unsupportedKind location other.render)

/-- Whether `array` is the only kind of a schema. -/
def isArray (schema : Json) : Bool :=
  match schema.get? keyword with
  | some (.string kind) => kind = "array"
  | some (.array items) => listed items = ["array"]
  | _ => false

end SchemaBeans.Kind
