import SchemaBeans.Json.Pointer
import SchemaBeans.Uri.Parser

/-! Schema locations.

A location is a document, named by a URI without fragment, and a JSON pointer into it. Its canonical
URI has the pointer as fragment, escaped so that the pointer can be read off again; URIs that differ
only in how the fragment is spelled name the same location. -/

namespace SchemaBeans

/-- One node of a schema document. -/
structure Location where
  root : Uri
  pointer : String
deriving DecidableEq, Repr, Inhabited

namespace Location

/-- The node that a pointer names in the document of a URI. -/
def of (document : Uri) (pointer : String) : Location :=
  ⟨document.withoutFragment, pointer⟩

def ofUri (u : Uri) : Location :=
  of u ((u.fragment.map Text.Percent.decode).getD "")

/-- The characters escaped in the fragment of a canonical URI: those no fragment has, and `%`. -/
def pointerSet (c : Char) : Bool :=
  Uri.fragmentSet c || c == '%'

/-- The canonical URI, which always has a fragment. -/
def uri (location : Location) : Uri :=
  location.root.withFragment (Text.Percent.encode pointerSet location.pointer)

def text (location : Location) : String := location.uri.text

def child (location : Location) (key : String) : Location :=
  { location with pointer := location.pointer ++ "/" ++ Pointer.escape key }

def segments (location : Location) : List String :=
  Pointer.segments location.pointer

def parse (s : String) : Except UriError Location :=
  (Uri.parse s).map ofUri

/-- The location that a reference names, seen from a location. -/
def join (location : Location) (reference : String) : Except UriError Location :=
  (location.uri.join reference).map ofUri

/-- Locations are ordered by the text of the document's URI, then by the pointer. -/
def before (a b : Location) : Bool :=
  a.root.text < b.root.text || a.root.text = b.root.text && a.pointer < b.pointer

end Location

end SchemaBeans
