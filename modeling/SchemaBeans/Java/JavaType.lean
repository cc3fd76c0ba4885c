import SchemaBeans.Text.Split

/-! Java types.

A type is a package, a simple name and type arguments; primitive types have no package. Two types are
the same when all three agree. -/

namespace SchemaBeans

/-- A reference to a Java type. -/
structure JavaType where
  package : String
  name : String
  arguments : List JavaType
deriving Repr, Inhabited

namespace JavaType

mutual

def decEq : (a b : JavaType) → Decidable (a = b)
  | ⟨p, n, as⟩, ⟨q, m, bs⟩ =>
    if hp : p = q then
      if hn : n = m then match decEqList as bs with
        | isTrue h => isTrue (by rw [hp, hn, h])
        | isFalse h => isFalse (fun e => h (JavaType.mk.inj e).2.2)
      else isFalse (fun e => hn (JavaType.mk.inj e).2.1)
    else isFalse (fun e => hp (JavaType.mk.inj e).1)

def decEqList : (as bs : List JavaType) → Decidable (as = bs)
  | [], [] => isTrue rfl
  | [], _ :: _ => isFalse (by simp)
  | _ :: _, [] => isFalse (by simp)
  | a :: as, b :: bs => match decEq a b with
    | isTrue h => match decEqList as bs with
      | isTrue hs => isTrue (by rw [h, hs])
      | isFalse hs => isFalse (fun e => hs (List.cons.inj e).2)
    | isFalse h => isFalse (fun e => h (List.cons.inj e).1)

end

instance : DecidableEq JavaType := decEq

def plain (package name : String) : JavaType := ⟨package, name, []⟩

/-- The package whose types are visible everywhere. -/
def langPackage : String := "java.lang"

/-- Package and name with a dot between them, or the name alone. -/
def qualifiedName (t : JavaType) : String :=
  if t.package = "" then t.name else t.package ++ "." ++ t.name

mutual

/-- A type in full, with its arguments in angle brackets. -/
def text : JavaType → String
  | ⟨package, name, arguments⟩ =>
    let qualified := qualifiedName ⟨package, name, []⟩
    if arguments.isEmpty then qualified
    else qualified ++ "<" ++ String.intercalate ", " (texts arguments) ++ ">"

def texts : List JavaType → List String
  | [] => []
  | t :: rest => text t :: texts rest

end

/-- The primitive types and `void`, with the class that stands for each as a type argument. -/
def primitives : List (String × String) :=
  [("boolean", "Boolean"), ("char", "Character"), ("byte", "Byte"), ("short", "Short"),
    ("int", "Integer"), ("long", "Long"), ("float", "Float"), ("double", "Double"), ("void", "Void")]

def boxClass? (t : JavaType) : Option String :=
  if t.package = "" then primitives.lookup t.name else none

def isPrimitive (t : JavaType) : Bool := t.boxClass?.isSome

def boxed (t : JavaType) : JavaType :=
  match t.boxClass? with
  | some name => plain langPackage name
  | none => t

def string : JavaType := plain langPackage "String"

def long : JavaType := plain "" "long"

def double : JavaType := plain "" "double"

def boolean : JavaType := plain "" "boolean"

def void : JavaType := plain "" "void"

def listOf (element : JavaType) : JavaType := ⟨"java.util", "List", [element.boxed]⟩

def mapOf (value : JavaType) : JavaType := ⟨"java.util", "Map", [string, value.boxed]⟩

/-- The type of a schema kind that needs no generator. -/
def ofKind? (kind : String) : Option JavaType :=
  if kind = "integer" then some long
  else if kind = "number" then some double
  else if kind = "boolean" then some boolean
  else if kind = "string" then some string
  else none

/-- The type with a dotted name: the last dot ends the package. The name may not be empty. -/
def ofDotted? (dotted : String) : Option JavaType :=
  let (package, name) := (Text.splitLast? '.' dotted).getD ("", dotted)
  if name = "" then none else some (plain package name)

mutual

/-- The order of types: by package, then by name, then by arguments. -/
def order : JavaType → JavaType → Ordering
  | ⟨p, n, as⟩, ⟨q, m, bs⟩ => (compare p q).then ((compare n m).then (orderList as bs))

def orderList : List JavaType → List JavaType → Ordering
  | [], [] => .eq
  | [], _ :: _ => .lt
  | _ :: _, [] => .gt
  | a :: as, b :: bs => (order a b).then (orderList as bs)

end

end JavaType

end SchemaBeans
