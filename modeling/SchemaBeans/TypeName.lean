import SchemaBeans.Java.Identifier
import SchemaBeans.Json.Pointer
import SchemaBeans.Location

/-! The name of the type for a location.

The segments of the pointer are run together, each in words with capitals; a colon separates segments
too. Segments that only say how schemas are nested add nothing. -/

namespace SchemaBeans

/-- The segments that only say how schemas are nested. -/
def structuralSegments : List String := ["", "properties", "definitions", "$defs"]

/-- The name where no segment adds to it. -/
def fallbackTypeName : String := "Type"

/-- The segments of a pointer that a name is made from; a colon counts as a slash. -/
def namingSegments (pointer : String) : List String :=
  -- A colon in a key separates segments too.
  let cs := pointer.toList.map fun c => if c = ':' then '/' else c
  ((Text.pieces '/' (String.ofList cs)).map Pointer.unescape).filter (· ∉ structuralSegments)

def typeName (location : Location) : String :=
  let name := ((namingSegments location.pointer).map fun s => Java.pascalChars s.toList).flatten
  if name.isEmpty then fallbackTypeName else String.ofList (Java.guardDigit name)

end SchemaBeans
