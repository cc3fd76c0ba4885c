import SchemaBeans.Java.JavaType
import SchemaBeans.Location
import SchemaBeans.Table

/-! Mappings: which Java type a location is to have. -/

namespace SchemaBeans

/-- A location with the type it is to have; without one, a type is found for it when it is needed. -/
structure Mapping where
  target : Location
  type : Option JavaType
deriving DecidableEq, Repr

/-- The types that locations are to have. -/
structure Mappings where
  entries : Table Location (Option JavaType)
deriving Repr

namespace Mappings

def empty : Mappings := ⟨[]⟩

def get? (mappings : Mappings) (location : Location) : Option Mapping :=
  (mappings.entries.get? location).map (⟨location, ·⟩)

/-- Adds a mapping, which replaces an earlier one of its target. -/
def put (mappings : Mappings) (mapping : Mapping) : Mappings :=
  ⟨mappings.entries.put mapping.target mapping.type⟩

/-- The type a location is to have, if there is one yet. -/
def type? (mappings : Mappings) (location : Location) : Option JavaType :=
  (mappings.entries.get? location).join

def size (mappings : Mappings) : Nat := mappings.entries.length

end Mappings

end SchemaBeans
