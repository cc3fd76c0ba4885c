import SchemaBeans.Java.JavaType
import SchemaBeans.Numbering

/-! The names of types in use, by package. -/

namespace SchemaBeans

/-- The names in use, each with its package. -/
structure Names where
  taken : List (String × String)
deriving Repr

namespace Names

def empty : Names := ⟨[]⟩

def isTaken (names : Names) (package name : String) : Bool :=
  names.taken.contains (package, name)

def reserve (names : Names) (t : JavaType) : Names :=
  ⟨names.taken.insert (t.package, t.name)⟩

def release (names : Names) (t : JavaType) : Names :=
  ⟨names.taken.filter (· ≠ (t.package, t.name))⟩

/-- A type whose name was free, numbered where needed, and the names with it taken. -/
def unique (names : Names) (package name : String) : JavaType × Names :=
  let t := JavaType.plain package
    (Numbering.pick (names.isTaken package) names.taken.length name "")
  (t, names.reserve t)

end Names

end SchemaBeans
