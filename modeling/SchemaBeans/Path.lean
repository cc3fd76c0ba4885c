import SchemaBeans.Text.Split

/-! Paths of files and directories.

A path is a text. It stands for its parts: repeated slashes, a slash at the end and inner `.` make no
difference, `..` is kept. Paths are compared by their parts. -/

namespace SchemaBeans

/-- A part of a path. `here` stands only at the start of a path. -/
inductive PathPart where
  | root
  | here
  | up
  | name (text : String)
deriving DecidableEq, Repr

namespace PathPart

def text : PathPart → String
  | .root => "/"
  | .here => "."
  | .up => ".."
  | .name s => s

/-- The part that a text between slashes stands for; nothing for an empty text and for `.`. -/
def ofPiece? (piece : String) : Option PathPart :=
  if piece = "" || piece = "." then none
  else if piece = ".." then some .up
  else some (.name piece)

/-- The place of a kind of part in the order of paths. -/
def rank : PathPart → Nat
  | .root => 0
  | .here => 1
  | .up => 2
  | .name _ => 3

/-- Parts are ordered by kind, names among themselves by their characters. -/
def before (a b : PathPart) : Bool :=
  match a, b with
  | .name s, .name t => s < t
  | a, b => a.rank < b.rank

end PathPart

namespace Path

def isAbsolute (path : String) : Bool :=
  path.toList.head? == some '/'

def parts (path : String) : List PathPart :=
  let pieces := Text.pieces '/' path
  let rest := pieces.filterMap PathPart.ofPiece?
  if isAbsolute path then .root :: rest
  else if pieces.head? = some "." then .here :: rest
  else rest

/-- Whether one list of parts comes before another: at the first difference, or by being shorter. -/
def partsBefore : List PathPart → List PathPart → Bool
  | _, [] => false
  | [], _ :: _ => true
  | a :: as, b :: bs => if a = b then partsBefore as bs else a.before b

def same (a b : String) : Bool := parts a = parts b

def before (a b : String) : Bool := partsBefore (parts a) (parts b)

/-- A path seen from another one. An absolute path replaces what it is joined to. -/
def join (base path : String) : String :=
  if isAbsolute path || base = "" then path
  else if Text.endsWithChar '/' base then base ++ path
  else base ++ "/" ++ path

/-- A path from the root for one seen from a working directory. Its text has single slashes and no `.`,
    and keeps a slash at the end. -/
def absolute (workingDirectory path : String) : String :=
  let rest := (parts path).filter (· ≠ .here)
  let start :=
    if !isAbsolute path then workingDirectory
    -- Exactly two slashes at the start are kept.
    else if path.toList.take 2 = ['/', '/'] && path.toList.take 3 ≠ ['/', '/', '/'] then "//"
    else "/"
  let text := ((rest.filter (· ≠ .root)).map PathPart.text).foldl join start
  if Text.endsWithChar '/' path then join text "" else text

def below? (directory path : String) : Option (List PathPart) :=
  (parts directory).isPrefixOf? (parts path)

/-- The pieces of a path after its root or its leading `.`, and what stands before them. -/
def body (path : String) : String × List String :=
  match path.toList with
  | '/' :: rest => ("/", Text.pieces '/' (String.ofList rest))
  | ['.'] => (".", [])
  | '.' :: '/' :: rest => (".", Text.pieces '/' (String.ofList ('/' :: rest)))
  | _ => ("", Text.pieces '/' path)

def isIdle (piece : String) : Bool := (PathPart.ofPiece? piece).isNone

/-- The directory a path lies in, as it is written in the path: all but the last part. -/
def parent? (path : String) : Option String :=
  let (start, pieces) := body path
  match pieces.reverse.dropWhile isIdle with
  | _ :: front => some (start ++ String.intercalate "/" (front.dropWhile isIdle).reverse)
  | [] => if start = "." then some "" else none

end Path

end SchemaBeans
