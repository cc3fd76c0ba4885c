import SchemaBeans.Java.JavaType

/-! Types that exist already and are never generated, known by their qualified names. -/

namespace SchemaBeans

/-- The qualified names of existing types. -/
structure KnownTypes where
  names : List String
deriving Repr

namespace KnownTypes

/-- The types of the Java library that are known from the start. -/
def standard : KnownTypes :=
  ⟨["java.lang.Boolean", "java.lang.Byte", "java.lang.Character", "java.lang.Double",
    "java.lang.Float", "java.lang.Integer", "java.lang.Long", "java.lang.Number",
    "java.lang.Object", "java.lang.Short", "java.lang.String", "java.math.BigDecimal",
    "java.math.BigInteger", "java.net.URI", "java.time.Instant", "java.time.LocalDate",
    "java.time.OffsetDateTime", "java.util.Date", "java.util.List", "java.util.Map",
    "java.util.Set", "java.util.UUID"]⟩

def insert (known : KnownTypes) (name : String) : KnownTypes :=
  ⟨known.names.insert name⟩

/-- Whether a type exists already, whatever its arguments. -/
def contains (known : KnownTypes) (t : JavaType) : Bool :=
  known.names.contains t.qualifiedName

end KnownTypes

end SchemaBeans
