import SchemaBeans.Java.JavaType
import SchemaBeans.Table
import SchemaBeans.Text.Brace

/-! Java source text of one compilation unit.

A source is written from top to bottom: the package, imports, then type declarations with their members.
It remembers which simple names mean what, so that a type is written by its simple name wherever that
name denotes it, and in full elsewhere. -/

namespace SchemaBeans.Java

open Text (openBrace closeBrace)

/-- A line of a source. Members are indented by one tab for each declaration they stand in. -/
inductive Line where
  | package (name : String)
  | imports (qualified : String)
  | blank
  | code (depth : Nat) (text : String)
deriving DecidableEq, Repr

def Line.text : Line → String
  | .package name => "package " ++ name ++ ";\n"
  | .imports qualified => "import " ++ qualified ++ ";\n"
  | .blank => "\n"
  | .code depth text => String.ofList (List.replicate depth '\t') ++ text ++ "\n"

/-- What a type declaration declares. -/
inductive DeclarationKind where
  | classType
  | enumType
deriving DecidableEq, Repr

def DeclarationKind.keyword : DeclarationKind → String
  | .classType => "class"
  | .enumType => "enum"

/-- Where a declaration can be seen. -/
inductive Visibility where
  | everywhere
  | inside
deriving DecidableEq, Repr

def Visibility.keyword : Visibility → String
  | .everywhere => "public"
  | .inside => "private"

/-- A source that is being written. -/
structure Source where
  /-- What has been written. -/
  lines : Array Line
  /-- How many declarations the next line stands in. -/
  depth : Nat
  /-- The package of the source. -/
  package : String
  /-- The simple names of the types it declares. -/
  declared : List String
  /-- The qualified names it imports, each with its simple name. -/
  imported : Table String String
  /-- The simple names of the types of its own package that it refers to. -/
  neighbours : List String
  /-- The types whose declarations are open, the innermost first. -/
  opened : List JavaType
deriving Repr

namespace Source

def empty : Source :=
  { lines := #[], depth := 0, package := "", declared := [], imported := [], neighbours := []
    opened := [] }

def isEmpty (s : Source) : Bool := s.lines.isEmpty

def text (s : Source) : String :=
  String.join (s.lines.toList.map Line.text)

def write (s : Source) (line : Line) : Source :=
  { s with lines := s.lines.push line }

def line (s : Source) (text : String) : Source :=
  s.write (.code s.depth text)

def blank (s : Source) : Source := s.write .blank

/-! ### Package and imports -/

/-- Declares the package of a type, and its simple name as taken. -/
def declarePackage (s : Source) (t : JavaType) : Source :=
  let s := { s with package := t.package, declared := s.declared.insert t.name }
  if t.package = "" then s else s.write (.package t.package)

/-- Imports one type where that is needed and possible, its arguments aside. -/
def importOne (s : Source) (t : JavaType) : Source :=
  -- Types of the own package are seen without an import, and their names are no longer free.
  if t.package = s.package && t.package ≠ "" then
    { s with neighbours := s.neighbours.insert t.name }
  else if t.package = "" || t.package = JavaType.langPackage then s
  else if s.imported.contains t.qualifiedName then s
  -- A simple name stands for one type only.
  else if s.declared.contains t.name || s.neighbours.contains t.name ||
      s.imported.any (·.2 = t.name) then s
  else { s with imported := s.imported.put t.qualifiedName t.name }.write (.imports t.qualifiedName)

mutual

def importType (s : Source) : JavaType → Source
  | ⟨package, name, arguments⟩ => importTypes (s.importOne ⟨package, name, arguments⟩) arguments

def importTypes (s : Source) : List JavaType → Source
  | [] => s
  | t :: rest => importTypes (importType s t) rest

end

/-- Whether the simple name of a type denotes it here. -/
def isVisible (s : Source) (t : JavaType) : Bool :=
  -- An import goes before the own package, and that before `java.lang`.
  let shadowed := s.imported.any fun i => i.2 = t.name && i.1 ≠ t.qualifiedName
  t.package = "" || s.imported.contains t.qualifiedName ||
    t.package = s.package && !shadowed ||
    t.package ≠ s.package && t.package = JavaType.langPackage && !shadowed &&
      !s.declared.contains t.name && !s.neighbours.contains t.name

mutual

/-- The shortest way to write a type that denotes it here. -/
def spelling (s : Source) : JavaType → String
  | ⟨package, name, arguments⟩ =>
    let t : JavaType := ⟨package, name, arguments⟩
    let base := if s.isVisible t then name else t.qualifiedName
    if arguments.isEmpty then base
    else base ++ "<" ++ String.intercalate ", " (spellings s arguments) ++ ">"

def spellings (s : Source) : List JavaType → List String
  | [] => []
  | t :: rest => spelling s t :: spellings s rest

end

/-! ### Declarations -/

/-- Opens the declaration of a type. -/
def openType (s : Source) (t : JavaType) (kind : DeclarationKind) (visibility : Visibility) : Source :=
  -- The first declaration stands apart from what precedes it.
  let s := if s.opened.isEmpty && !s.isEmpty then s.blank else s
  let s := { s with declared := s.declared.insert t.name }
  let s := s.line (visibility.keyword ++ " " ++ kind.keyword ++ " " ++ t.name ++ " " ++ openBrace)
  { s with depth := s.depth + 1, opened := t :: s.opened }

def closeType (s : Source) : Source :=
  let s := { s with depth := s.depth - 1 }
  let s := s.line closeBrace
  { s with opened := s.opened.tail }

/-- Declares a type with a body, and closes it whatever the body results in. -/
def withType {α : Type} (s : Source) (t : JavaType) (kind : DeclarationKind) (visibility : Visibility)
    (body : Source → α × Source) : α × Source :=
  let (result, s) := body (s.openType t kind visibility)
  (result, s.closeType)

def currentType? (s : Source) : Option JavaType := s.opened.head?

def field (s : Source) (visibility : Visibility) (t : JavaType) (name : String) : Source :=
  s.line (visibility.keyword ++ " " ++ s.spelling t ++ " " ++ name ++ ";")

def finalField (s : Source) (visibility : Visibility) (t : JavaType) (name : String) : Source :=
  s.line (visibility.keyword ++ " final " ++ s.spelling t ++ " " ++ name ++ ";")

def constant (s : Source) (visibility : Visibility) (t : JavaType) (name value : String) : Source :=
  s.line (visibility.keyword ++ " static final " ++ s.spelling t ++ " " ++ name ++ " = " ++ value ++ ";")

/-- A constant of an enum; the last one ends the list of constants. -/
def enumConstant (s : Source) (name : String) (argument : Option String) (last : Bool) : Source :=
  let terminator := if last then ";" else ","
  s.line (name ++ (argument.map fun a => "(" ++ a ++ ")").getD "" ++ terminator)

/-- Opens the body of a method, or of a constructor if nothing is returned. -/
def openMethod (s : Source) (visibility : Visibility) (returns : Option JavaType) (name : String)
    (parameters : List (JavaType × String)) : Source :=
  let result := (returns.map fun t => s.spelling t ++ " ").getD ""
  let list := String.intercalate ", " (parameters.map fun p => s.spelling p.1 ++ " " ++ p.2)
  let s := s.line (visibility.keyword ++ " " ++ result ++ name ++ "(" ++ list ++ ") " ++ openBrace)
  { s with depth := s.depth + 1 }

def code (s : Source) (statements : List String) : Source :=
  statements.foldl line s

def closeMethod (s : Source) : Source :=
  let s := { s with depth := s.depth - 1 }
  s.line closeBrace

/-- Why a source is not complete. -/
inductive Unfinished where
  | openType
deriving DecidableEq, Repr

def Unfinished.message : Unfinished → String
  | .openType => "unclosed type body"

/-- The text of a source in which every declaration is closed. -/
def finish (s : Source) : Except Unfinished String :=
  if s.opened.isEmpty then .ok s.text else .error .openType

end Source

end SchemaBeans.Java
