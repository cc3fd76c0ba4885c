import SchemaBeans.Error
import SchemaBeans.Json.Printer

/-! References between schemas.

A node with a `$ref` stands for another one, whatever else it says. -/

namespace SchemaBeans

def Location.read (text : String) : Except Error Location :=
  match Location.parse text with
  | .ok location => .ok location
  | .error cause => .error (.invalidUri text cause)

/-- A child schema: a reference to another location, or a schema in its own right. -/
inductive Child where
  | reference (target : Location)
  | inline (location : Location)
deriving DecidableEq, Repr

namespace Child

def target : Child → Location
  | .reference target => target
  | .inline location => location

end Child

namespace Reference

def keyword : String := "$ref"

/-- The location that a reference names, seen from a location. -/
def follow (location : Location) (reference : String) : Except Error Location :=
  match location.join reference with
  | .ok target => .ok target
  | .error _ => .error (.invalidReference location reference)

def target? (location : Location) (node : Json) : Except Error (Option Location) :=
  match node.get? keyword with
  | none => .ok none
  | some .null => .ok none
  | some (.string reference) => (follow location reference).map some
  | some other => .error (.invalidReference location other.render)

/-- The child schema that a node at a location is; values without parts are none. -/
def child? (location : Location) (node : Json) : Except Error (Option Child) :=
  if node.isContainer then match target? location node with
    | .ok (some target) => .ok (some (.reference target))
    | .ok none => .ok (some (.inline location))
    | .error e => .error e
  else .ok none

/-- The location whose type a node at a location has. -/
def typeTarget? (location : Location) (node : Json) : Except Error (Option Location) :=
  (child? location node).map (Option.map Child.target)

end Reference

end SchemaBeans
