import SchemaBeans.Error
import SchemaBeans.Json.Record
import SchemaBeans.Mapping

/-! Mapping files.

A mapping file is a JSON text with an optional base URI and entries. The target of an entry is a
reference to a location; its type is given by its parts or by a dotted name, the former first. -/

namespace SchemaBeans

/-! ### Records -/

namespace JavaType

def fieldNames : List String := ["namespace", "name", "typeArguments"]

mutual

/-- The type that a record describes, with at most `room` arrays and objects inside each other. -/
def ofText? : Nat → JsonText → Option JavaType
  | 0, _ => none
  | room + 1, text => match text.fields? fieldNames with
    | some [package, some name, arguments] => do
      let package ← (package.map JsonText.string?).getD (some "")
      let name ← name.string?
      let arguments ← (arguments.map (listOfText? room)).getD (some [])
      some ⟨package, name, arguments⟩
    | _ => none

def listOfText? : Nat → JsonText → Option (List JavaType)
  | 0, _ => none
  | room + 1, .array items => items.mapM (ofText? room)
  | _, _ => none

end

def parse? (text : String) : Option JavaType :=
  (JsonText.parse? text).bind (ofText? Json.maxDepth)

end JavaType

/-- An entry of a mapping file. -/
structure MappingEntry where
  target : String
  type : Option JavaType
  className : Option String
deriving DecidableEq, Repr

def JsonText.optional? {α : Type} (read : JsonText → Option α) : Option JsonText → Option (Option α)
  | none => some none
  | some .null => some none
  | some text => (read text).map some

namespace MappingEntry

def fieldNames : List String := ["target", "typeRef", "className"]

def ofText? (room : Nat) (text : JsonText) : Option MappingEntry :=
  match room, text.fields? fieldNames with
  | room + 1, some [some target, type, className] => do
    let target ← target.string?
    let type ← JsonText.optional? (JavaType.ofText? room) type
    let className ← JsonText.optional? JsonText.string? className
    some ⟨target, type, className⟩
  | _, _ => none

def resolvedType (entry : MappingEntry) : Except ConfigError (Option JavaType) :=
  match entry.type, entry.className with
  | some t, _ => .ok (some t)
  | none, some dotted => match JavaType.ofDotted? dotted with
    | some t => .ok (some t)
    | none => .error (.invalidTypeName dotted)
  | none, none => .ok none

/-- The mapping that an entry stands for, its target seen from a base URI if there is one. -/
def resolve (base : Option Uri) (entry : MappingEntry) : Except Error Mapping :=
  let target := match base with
    | some base => base.join entry.target
    | none => Uri.parse entry.target
  match target with
  | .error cause => .error (.invalidUri entry.target cause)
  | .ok target => match entry.resolvedType with
    | .error cause => .error (.config cause)
    | .ok type => .ok ⟨Location.ofUri target, type⟩

end MappingEntry

/-- A mapping file. -/
structure MappingFile where
  baseUri : Option String
  entries : List MappingEntry
deriving DecidableEq, Repr

namespace MappingFile

def fieldNames : List String := ["baseUri", "mappings"]

def entriesOfText? (room : Nat) (text : JsonText) : Option (List MappingEntry) :=
  match room, text with
  | room + 1, .array items => items.mapM (MappingEntry.ofText? room)
  | _, _ => none

def ofText? (room : Nat) (text : JsonText) : Option MappingFile :=
  match room, text.fields? fieldNames with
  | room + 1, some [baseUri, entries] => do
    let baseUri ← JsonText.optional? JsonText.string? baseUri
    let entries ← (entries.map (entriesOfText? room)).getD (some [])
    some ⟨baseUri, entries⟩
  | _, _ => none

def parse (text : String) : Except Error MappingFile :=
  match (JsonText.parse? text).bind (ofText? Json.maxDepth) with
  | some file => .ok file
  | none => .error .json

/-- A mapping file with a base URI where it has none itself. -/
def withDefaultBase (file : MappingFile) (base : String) : MappingFile :=
  { file with baseUri := some (file.baseUri.getD base) }

def resolve (file : MappingFile) : Except Error (List Mapping) :=
  match file.baseUri with
  | none => file.entries.mapM (MappingEntry.resolve none)
  | some text => match Uri.parse text with
    | .ok base => file.entries.mapM (MappingEntry.resolve (some base))
    | .error cause => .error (.invalidUri text cause)

end MappingFile

end SchemaBeans
