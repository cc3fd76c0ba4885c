import SchemaBeans.Json.Basic
import SchemaBeans.Text.Split

/-! JSON pointers.

A pointer is empty or a list of reference tokens, each after a slash. In a token `~` is written `~0`
and `/` is written `~1`. A token selects the member of an object with that key, or the item of an
array with that index in plain decimal notation. -/

namespace SchemaBeans

namespace Pointer

def escapeTilde : List Char → List Char
  | [] => []
  | c :: rest => if c = '~' then '~' :: '0' :: escapeTilde rest else c :: escapeTilde rest

def escapeSlash : List Char → List Char
  | [] => []
  | c :: rest => if c = '/' then '~' :: '1' :: escapeSlash rest else c :: escapeSlash rest

/-- Every `~1` as `/`, from left to right. -/
def unescapeSlash : List Char → List Char
  | '~' :: '1' :: rest => '/' :: unescapeSlash rest
  | c :: rest => c :: unescapeSlash rest
  | [] => []

/-- Every `~0` as `~`, from left to right. -/
def unescapeTilde : List Char → List Char
  | '~' :: '0' :: rest => '~' :: unescapeTilde rest
  | c :: rest => c :: unescapeTilde rest
  | [] => []

def escape (key : String) : String :=
  String.ofList (escapeSlash (escapeTilde key.toList))

def unescape (token : String) : String :=
  String.ofList (unescapeTilde (unescapeSlash token.toList))

/-- The keys a pointer names, one for each slash; what stands before the first slash is no key. -/
def segments (pointer : String) : List String :=
  ((Text.pieces '/' pointer).drop 1).map unescape

/-- The index that a key denotes: decimal digits without sign and without leading zeros. -/
def index? (key : String) : Option Nat :=
  match key.toList with
  | [] => none
  | ['0'] => some 0
  | '0' :: _ => none
  | ds => if ds.all Char.isDigit then some (ds.foldl (fun n d => n * 10 + (d.toNat - 0x30)) 0) else none

end Pointer

namespace Json

def child? (value : Json) (key : String) : Option Json :=
  match value with
  | .object fields => Table.get? fields key
  | .array items => (Pointer.index? key).bind fun i => items[i]?
  | _ => none

def descend? (value : Json) : List String → Option Json
  | [] => some value
  | key :: rest => (value.child? key).bind (descend? · rest)

/-- The part of a document that a pointer names. The empty pointer names the document; any other
    pointer starts with a slash. -/
def pointer? (document : Json) (pointer : String) : Option Json :=
  if pointer = "" then some document
  else if pointer.toList.head? = some '/' then document.descend? (Pointer.segments pointer)
  else none

end Json

end SchemaBeans
