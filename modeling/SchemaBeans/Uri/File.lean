import SchemaBeans.Path
import SchemaBeans.Uri.Parser

/-! Paths as URIs, and URIs as paths.

A directory has a `file:` URI that ends in a slash, so that references to the files in it resolve below
it. A `file:` URI of this machine names a path. A root is a URI below which the files of a directory are
published under their names. -/

namespace SchemaBeans.Uri

/-- The `file:` URI of a directory, given by its path from the root. -/
def ofDirectory (path : String) : Uri :=
  let names := (Path.parts path).filter (· ≠ .root)
  fileUri (.domain "") (names.map (fun part => Text.Percent.encode fileNameSet part.text) ++ [""])

def isLocal : Option Host → Bool
  | none => true
  | some (.domain name) => name = "" || name = "localhost"
  | some _ => false

/-- Whether octets end in what could be taken for a drive letter, which needs a slash after it. -/
def endsInDrive (octets : List UInt8) : Bool :=
  match octets.reverse with
  | mark :: letter :: _ :: _ =>
    (mark == 0x3A || mark == 0x7C) && (Char.ofNat letter.toNat).isAlpha
  | _ => false

/-- The octets of the path that a `file:` URI names on this machine. -/
def filePath? (u : Uri) : Option (List UInt8) :=
  match u.path with
  | .rootless _ => none
  | .segments parts =>
    if isLocal u.host then
      let octets := parts.flatMap fun part => 0x2F :: Text.Percent.octets part.toList
      some (if endsInDrive octets then octets ++ [0x2F] else octets)
    else none

/-- The segments of a path with the drive letter of a file URI written with a colon. -/
def withDrive (kind : SchemeKind) : List String → List String
  | first :: rest =>
    if kind = .file && isDriveLetter first.toList then driveOf first.toList :: rest else first :: rest
  | [] => []

/-- A path that ends in a slash. -/
def closePath (kind : SchemeKind) : UriPath → UriPath
  | .segments parts =>
    .segments (if parts.getLast? = some "" then parts else withDrive kind parts ++ [""])
  -- A rootless path cannot start with a slash.
  | .rootless "" => .rootless "%2F"
  | .rootless text => .rootless (if Text.endsWithChar '/' text then text else text ++ "/")

/-- A URI whose path ends in a slash, so that references resolve below it. -/
def asRoot (u : Uri) : Uri := { u with path := closePath (schemeKind u.scheme) u.path }

/-- What follows the text of a root in the text of a URI. -/
def below? (root u : Uri) : Option String :=
  (root.text.toList.isPrefixOf? u.text.toList).map String.ofList

end SchemaBeans.Uri
