import SchemaBeans.Error
import SchemaBeans.Json.Pointer
import SchemaBeans.Json.Text
import SchemaBeans.Log
import SchemaBeans.Uri.File

/-! Catalogs: where schema documents come from.

A catalog is asked for documents by URI. Documents given beforehand are kept by their URIs; a directory
serves the files below it under a root URI, and `file:` URIs directly. Catalogs are asked in turn until
one of them has the document. -/

namespace SchemaBeans

/-- What a catalog says about a URI: a document, nothing if it has none, or an error; and messages. -/
structure Lookup where
  result : Except Error (Option Json)
  log : List LogEntry

namespace Lookup

def known (document : Json) : Lookup := ⟨.ok (some document), []⟩

def unknown : Lookup := ⟨.ok none, []⟩

end Lookup

/-! ### How many nodes a document has -/

/-- In how many ways a key can be spelled as a token, at most: a tilde stands for itself or is escaped. -/
def Pointer.spellings (key : String) : Nat :=
  Nat.pow 2 (key.toList.count '~')

mutual

/-- How many pointers name a part of a value, at most. -/
def Json.extent : Json → Nat
  | .array items => 1 + Json.itemsExtent items
  | .object fields => 1 + Json.fieldsExtent fields
  | _ => 1

def Json.itemsExtent : List Json → Nat
  | [] => 0
  | v :: rest => v.extent + Json.itemsExtent rest

def Json.fieldsExtent : List (String × Json) → Nat
  | [] => 0
  | (key, v) :: rest => Pointer.spellings key * v.extent + Json.fieldsExtent rest

end

/-! ### Catalogs -/

/-- A source of documents. -/
structure Catalog where
  /-- What the catalog has under a URI, given the files as they are. -/
  load : Files → Uri → Lookup
  /-- How many locations lie in its documents, at most. -/
  extent : Nat

namespace Catalog

def empty : Catalog := ⟨fun _ _ => .unknown, 0⟩

/-- The documents given beforehand, by URIs without fragment. -/
def preloaded (documents : Table Uri Json) : Catalog where
  load _ uri := match documents.get? uri with
    | some document => .known document
    | none => .unknown
  extent := documents.foldr (fun entry n => entry.2.extent + n) 0

/-- Adds a document to those given beforehand. The fragment of its URI does not matter. -/
def preload (documents : Table Uri Json) (uri : Uri) (document : Json) : Table Uri Json :=
  documents.put uri.withoutFragment document

def readDocument (files : Files) (path : String) : Except Error Json :=
  match files.readText path with
  | .error cause => .error (.read path cause)
  | .ok text => match Json.parse? text with
    | some document => .ok document
    | none => .error .json

/-- Adds the document in a file to those given beforehand. -/
def preloadFile (files : Files) (documents : Table Uri Json) (uri : Uri) (path : String) :
    Except Error (Table Uri Json × LogEntry) :=
  match readDocument files path with
  | .error e => .error e
  | .ok document =>
    .ok (preload documents uri document, ⟨.catalog, .info, uri.text ++ ": loading from " ++ path⟩)

/-- The file that a directory published under a root serves for a URI, as the octets of its path. -/
def servedPath? (root : Uri) (directory : String) (uri : Uri) : Option (List UInt8) :=
  match root.below? uri with
  | some rest => some (Text.Utf8.encode (Path.join directory (Text.Percent.decode rest)))
  -- Not below the root, a file URI names its file all the same.
  | none => if uri.scheme = "file" then uri.filePath? else none

/-- What the file at a path says about a URI. -/
def lookUpFile (files : Files) (uri : Uri) (path : List UInt8) : Lookup :=
  match files.readTextOctets path with
  -- A file that does not exist is no failure: another catalog may have the document.
  | .error .notFound => .unknown
  | .error cause => ⟨.error (.read (Text.Utf8.decode path) cause), []⟩
  | .ok text =>
    let log := [⟨.catalog, .debug, uri.text ++ ": reading " ++ Text.Utf8.decode path⟩]
    match Json.parse? text with
    | some document => ⟨.ok (some document), log⟩
    | none => ⟨.error .json, log⟩

/-- How many locations are followed in the files of a directory. -/
def directoryExtent : Nat := 100000

/-- The files below a directory, published under a root. -/
def directory (root : Uri) (path : String) : Catalog where
  load files uri := match servedPath? root path uri with
    | some path => lookUpFile files uri path
    | none => .unknown
  extent := directoryExtent

/-- One catalog, and another one for what it does not have. -/
def orElse (first second : Catalog) : Catalog where
  load files uri := match first.load files uri with
    | ⟨.ok none, log⟩ => let next := second.load files uri; ⟨next.result, log ++ next.log⟩
    | found => found
  extent := first.extent + second.extent

def chain (catalogs : List Catalog) : Catalog :=
  catalogs.foldr orElse empty

/-! ### The URI of a schema file -/

/-- The path from the root for a path that is not empty. -/
def absolutePath (files : Files) (path : String) : Except Error String :=
  if path = "" then .error (.read path .emptyPath)
  else .ok (Path.absolute files.workingDirectory path)

/-- The URI under which a file is published: its path below the base directory, seen from the root. -/
def fileUri (files : Files) (root : Uri) (base file : String) : Except Error Uri := do
  let directory ← absolutePath files base
  let path ← absolutePath files file
  match Path.below? directory path with
  | none => .error (.config (.outsideBase file directory))
  | some parts =>
    let relative := String.intercalate "/" (parts.map PathPart.text)
    match root.join relative with
    | .ok uri => .ok uri
    | .error cause => .error (.invalidUri relative cause)

end Catalog

end SchemaBeans
