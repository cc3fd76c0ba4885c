import SchemaBeans.Generator.Array
import SchemaBeans.Generator.Object
import SchemaBeans.Generator.String

/-! The generators of a run, by the kind of schema they serve. -/

namespace SchemaBeans

/-- A type that is there already, whatever else the schema says. -/
def Generator.builtin (t : JavaType) : Generator := fun _ => .done (some t) .empty

/-- The generator for each kind. -/
structure Generators where
  byKind : Table String Generator

namespace Generators

def empty : Generators := ⟨[]⟩

def get? (generators : Generators) (kind : String) : Option Generator :=
  generators.byKind.get? kind

/-- Adds a generator, which replaces an earlier one for its kind. -/
def register (generators : Generators) (kind : String) (generator : Generator) : Generators :=
  ⟨generators.byKind.put kind generator⟩

def kinds (generators : Generators) : List String :=
  (generators.byKind.map (·.1)).mergeSort fun a b => a ≤ b

/-- A generator for every kind but `null`. -/
def standard : Generators :=
  ⟨[("object", Generator.object), ("array", Generator.array), ("string", Generator.string),
    ("integer", Generator.builtin .long), ("number", Generator.builtin .double),
    ("boolean", Generator.builtin .boolean)]⟩

end Generators

end SchemaBeans
