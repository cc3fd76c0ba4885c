import SchemaBeans.Path
import SchemaBeans.Table
import SchemaBeans.Text.Utf8

/-! A tree of files.

The tree holds directories and files by their names from the root. A path is followed name by name:
each name but the last has to lead to a directory, `.` stays and `..` goes back up. Names in the tree are
text; a path is octets, and those that are no text name nothing. Reading, writing and making directories
fail for the reasons a file system has. -/

namespace SchemaBeans

/-- What a name in the tree stands for. -/
inductive FileNode where
  | directory
  | file (content : List UInt8)
deriving DecidableEq, Repr

/-- Why a file cannot be read or written. -/
inductive FileError where
  | notFound
  | alreadyExists
  | notDirectory
  | isDirectory
  | nameTooLong
  | invalidUtf8
  | nulInName
  | emptyPath
deriving DecidableEq, Repr, Inhabited

def FileError.message : FileError → String
  | .notFound => "No such file or directory (os error 2)"
  | .alreadyExists => "File exists (os error 17)"
  | .notDirectory => "Not a directory (os error 20)"
  | .isDirectory => "Is a directory (os error 21)"
  | .nameTooLong => "File name too long (os error 36)"
  | .invalidUtf8 => "stream did not contain valid UTF-8"
  | .nulInName => "file name contained an unexpected NUL byte"
  | .emptyPath => "cannot make an empty path absolute"

/-- A file tree, and the directory that relative paths start from. -/
structure Files where
  workingDirectory : String
  entries : Table (List String) FileNode
deriving Repr

namespace Files

/-- The node with given names from the root. The root is a directory. -/
def node? (files : Files) (names : List String) : Option FileNode :=
  if names = [] then some .directory else files.entries.get? names

/-- Where a path leads: to a node, or to a free name in a directory. -/
inductive Place where
  | taken (names : List String) (node : FileNode)
  | free (names : List String)
deriving Repr

/-- The longest name a directory can hold, in octets. -/
def maxName : Nat := 255

/-- The longest path that can be followed, in octets. -/
def maxPath : Nat := 4095

/-- Follows pieces of a path from a directory. A piece that is no text is missing. -/
def follow (files : Files) : List String → List (Option String) → Except FileError Place
  | names, [] => .ok (.taken names .directory)
  | _, none :: _ => .error .notFound
  | names, some piece :: rest =>
    if piece = "" || piece = "." then follow files names rest
    else if piece = ".." then follow files names.dropLast rest
    else if maxName < piece.utf8ByteSize then .error .nameTooLong
    else
      let next := names ++ [piece]
      match files.node? next with
      | some .directory => follow files next rest
      | some (.file content) =>
        -- A file has nothing below it, not even after a slash.
        if rest.isEmpty then .ok (.taken next (.file content)) else .error .notDirectory
      -- A name may be free, but not a directory on the way.
      | none => if rest.all (· = some "") then .ok (.free next) else .error .notFound

def pieces (path : List UInt8) : List (Option String) :=
  (path.splitOnP (· == 0x2F)).map Text.Utf8.decode?

/-- Follows a path, given by its octets, from the root or the working directory. -/
def findOctets (files : Files) (path : List UInt8) : Except FileError Place :=
  if path.contains 0 then .error .nulInName
  else if path.isEmpty then .error .notFound
  else if maxPath < path.length then .error .nameTooLong
  else if path.head? = some 0x2F then files.follow [] (pieces path)
  else files.follow [] (pieces (Text.Utf8.encode files.workingDirectory) ++ pieces path)

@[inherit_doc findOctets]
def find (files : Files) (path : String) : Except FileError Place :=
  files.findOctets (Text.Utf8.encode path)

def isDirectory (files : Files) (path : String) : Bool :=
  match files.find path with
  | .ok (.taken _ .directory) => true
  | _ => false

def isFile (files : Files) (path : String) : Bool :=
  match files.find path with
  | .ok (.taken _ (.file _)) => true
  | _ => false

/-- The content of a file, given by the octets of its path. -/
def readOctets (files : Files) (path : List UInt8) : Except FileError (List UInt8) :=
  match files.findOctets path with
  | .ok (.taken _ (.file content)) => .ok content
  | .ok (.taken _ .directory) => .error .isDirectory
  | .ok (.free _) => .error .notFound
  | .error e => .error e

/-- The content of a text file, given by the octets of its path. -/
def readTextOctets (files : Files) (path : List UInt8) : Except FileError String :=
  match files.readOctets path with
  | .ok content => match Text.Utf8.decode? content with
    | some text => .ok text
    | none => .error .invalidUtf8
  | .error e => .error e

def readText (files : Files) (path : String) : Except FileError String :=
  files.readTextOctets (Text.Utf8.encode path)

def put (files : Files) (names : List String) (node : FileNode) : Files :=
  { files with entries := files.entries.put names node }

/-- Makes one directory; its name has to be free. -/
def makeDirectory (files : Files) (path : String) : Except FileError Files :=
  match files.find path with
  | .ok (.free names) => .ok (files.put names .directory)
  | .ok (.taken _ _) => .error .alreadyExists
  | .error e => .error e

/-- Makes a directory and those it lies in, as far as they are missing. -/
def makeDirectoriesUpTo (path : String) : Nat → Files → Except FileError Unit × Files
  -- The bound is on how far up directories are missing; a path has fewer parts than characters.
  | 0, files => (.error .notFound, files)
  | fuel + 1, files =>
    if path = "" then (.ok (), files)
    else match files.makeDirectory path with
      | .ok made => (.ok (), made)
      | .error .notFound => match Path.parent? path with
        | none => (.error .notFound, files)
        | some parent => match makeDirectoriesUpTo parent fuel files with
          | (.error e, files) => (.error e, files)
          | (.ok (), files) => match files.makeDirectory path with
            | .ok made => (.ok (), made)
            -- It does not matter that the directory is there already.
            | .error e => if files.isDirectory path then (.ok (), files) else (.error e, files)
      | .error e => if files.isDirectory path then (.ok (), files) else (.error e, files)

@[inherit_doc makeDirectoriesUpTo]
def makeDirectories (files : Files) (path : String) : Except FileError Unit × Files :=
  makeDirectoriesUpTo path (path.length + 2) files

/-- Writes a file, replacing its content if it is there. -/
def write (files : Files) (path : String) (content : List UInt8) : Except FileError Files :=
  match files.find path with
  | .ok (.free names) => .ok (files.put names (.file content))
  | .ok (.taken names (.file _)) => .ok (files.put names (.file content))
  | .ok (.taken _ .directory) => .error .isDirectory
  | .error e => .error e

end Files

end SchemaBeans
