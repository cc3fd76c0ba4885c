import SchemaBeans.Decimal.Binary64
import SchemaBeans.Table

/-! JSON values.

Objects keep the order of their keys: the order of a schema's properties is the order of the members
of the class made from it. -/

namespace SchemaBeans

/-- A JSON number: a whole number of 64 bits, or a double. -/
inductive Number where
  | integer (value : Int)
  | float (value : Decimal.Binary64)
deriving DecidableEq, Repr, Inhabited

/-- A JSON value. -/
inductive Json where
  | null
  | bool (value : Bool)
  | number (value : Number)
  | string (value : String)
  | array (items : List Json)
  | object (fields : List (String × Json))
deriving Repr, Inhabited

namespace Json

/-- The member of an object under a key; nothing for any other value. -/
def get? : Json → String → Option Json
  | .object fields, key => Table.get? fields key
  | _, _ => none

def isObject : Json → Bool
  | .object _ => true
  | _ => false

def isArray : Json → Bool
  | .array _ => true
  | _ => false

/-- Whether a value has parts: an object or an array. -/
def isContainer (value : Json) : Bool :=
  value.isObject || value.isArray

def string? : Json → Option String
  | .string s => some s
  | _ => none

end Json

end SchemaBeans
