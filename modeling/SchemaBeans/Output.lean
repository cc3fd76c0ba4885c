import SchemaBeans.Error
import SchemaBeans.Java.JavaType

/-! Where sources go.

The source of a type has a place of its own below a root: a directory for each part of the package and a
file named for the type. Sources are kept in memory or written to files. -/

namespace SchemaBeans

/-- The path of a type's source below the root. -/
def sourcePath (t : JavaType) : String :=
  let directories := (Text.pieces '.' t.package).filter (· ≠ "")
  Path.join (directories.foldl Path.join "") (t.name ++ ".java")

/-! ### In memory -/

/-- Sources in the order of their paths, and the paths written to, the latest last. -/
structure SourceStore where
  sources : List (String × String)
  writes : List String
deriving Repr

namespace SourceStore

def empty : SourceStore := ⟨[], []⟩

/-- Puts a source at its place in the order. -/
def insert (path text : String) : List (String × String) → List (String × String)
  | [] => [(path, text)]
  | (p, t) :: rest =>
    -- A path that is there already keeps its spelling.
    if Path.same path p then (p, text) :: rest
    else if Path.before path p then (path, text) :: (p, t) :: rest
    else (p, t) :: insert path text rest

def write (store : SourceStore) (t : JavaType) (text : String) : SourceStore :=
  let path := sourcePath t
  ⟨insert path text store.sources, store.writes ++ [path]⟩

def get? (store : SourceStore) (path : String) : Option String :=
  (store.sources.find? fun entry => Path.same entry.1 path).map (·.2)

def sourceOf? (store : SourceStore) (t : JavaType) : Option String :=
  store.get? (sourcePath t)

def paths (store : SourceStore) : List String := store.sources.map (·.1)

def writeCount (store : SourceStore) : Nat := store.writes.length

def writesTo (store : SourceStore) (path : String) : Nat :=
  store.writes.countP (Path.same · path)

end SourceStore

/-! ### In files -/

/-- A directory that sources are written below. -/
structure OutputDirectory where
  root : String
deriving DecidableEq, Repr

namespace OutputDirectory

def path (directory : OutputDirectory) (t : JavaType) : String :=
  Path.join directory.root (sourcePath t)

def contains (directory : OutputDirectory) (files : Files) (t : JavaType) : Bool :=
  files.isFile (directory.path t)

/-- Writes the source of a type, and makes the directories it needs. -/
def write (directory : OutputDirectory) (files : Files) (t : JavaType) (text : String) :
    Except Error Unit × Files :=
  let path := directory.path t
  let (made, files) : Except Error Unit × Files := match Path.parent? path with
    | none => (.ok (), files)
    | some parent => match files.makeDirectories parent with
      | (.ok (), files) => (.ok (), files)
      | (.error cause, files) => (.error (.write parent cause), files)
  match made with
  | .error e => (.error e, files)
  | .ok () => match files.write path (Text.Utf8.encode text) with
    | .ok files => (.ok (), files)
    | .error cause => (.error (.write path cause), files)

end OutputDirectory

/-- Where the sources of a run go. -/
inductive Output where
  /-- Into memory, except for types whose texts are refused. -/
  | memory (store : SourceStore) (refused : List String)
  | directory (target : OutputDirectory)

namespace Output

def write (output : Output) (files : Files) (t : JavaType) (text : String) :
    Except Error Unit × Output × Files :=
  match output with
  | .memory store refused =>
    if refused.contains t.text then (.error (.config (.refused t.text)), output, files)
    else (.ok (), .memory (store.write t text) refused, files)
  | .directory target =>
    let (result, files) := target.write files t text
    (result, output, files)

def store : Output → SourceStore
  | .memory store _ => store
  | .directory _ => .empty

end Output

end SchemaBeans
