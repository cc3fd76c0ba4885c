import SchemaBeans.Text.Percent

/-! Absolute URIs.

A URI is kept in its normalised parts. The path is a list of segments, each written after a slash, or
one text without a leading slash, as in `urn:isbn:1`; a URI of the second form is no base for relative
references. Two URIs are equal exactly when they are written the same. -/

namespace SchemaBeans

/-- The host of an authority. The empty domain is that of `file:///path`. -/
inductive Host where
  | domain (name : String)
  | ipv4 (address : Nat)
  | ipv6 (pieces : List Nat)
deriving DecidableEq, Repr, Inhabited

/-- The path of a URI. -/
inductive UriPath where
  | segments (parts : List String)
  | rootless (text : String)
deriving DecidableEq, Repr, Inhabited

/-- An absolute URI. A host is present exactly when `//` is written. -/
structure Uri where
  scheme : String
  username : String
  password : Option String
  host : Option Host
  port : Option Nat
  path : UriPath
  query : Option String
  fragment : Option String
deriving DecidableEq, Repr, Inhabited

/-- Why a text is no URI. -/
inductive UriError where
  | emptyHost
  | invalidDomain
  | invalidPort
  | invalidIpv4
  | invalidIpv6
  | invalidDomainCharacter
  | relativeWithoutBase
  | relativeToRootless
deriving DecidableEq, Repr, Inhabited

def UriError.message : UriError → String
  | .emptyHost => "empty host"
  | .invalidDomain => "invalid international domain name"
  | .invalidPort => "invalid port number"
  | .invalidIpv4 => "invalid IPv4 address"
  | .invalidIpv6 => "invalid IPv6 address"
  | .invalidDomainCharacter => "invalid domain character"
  | .relativeWithoutBase => "relative URL without a base"
  | .relativeToRootless => "relative URL with a cannot-be-a-base base"

/-! ### Writing -/

def decimal (n : Nat) : String := String.ofList (Nat.toDigits 10 n)

def leadingZeros (pieces : List Nat) : Nat := (pieces.takeWhile (· == 0)).length

/-- The first longest run of zeros in a list: where it starts and how long it is. -/
def longestZeros : Nat → List Nat → Nat × Nat
  | _, [] => (0, 0)
  | start, p :: rest =>
    let here := leadingZeros (p :: rest)
    let later := longestZeros (start + 1) rest
    if later.2 ≤ here then (start, here) else later

def hexPieces (pieces : List Nat) : String :=
  String.intercalate ":" (pieces.map fun p => String.ofList (Nat.toDigits 16 p))

/-- Eight groups in lower-case hexadecimal, the first longest run of two or more zero groups written
    as `::`. -/
def writeIpv6 (pieces : List Nat) : String :=
  let (start, length) := longestZeros 0 pieces
  if length < 2 then hexPieces pieces
  else hexPieces (pieces.take start) ++ "::" ++ hexPieces (pieces.drop (start + length))

def Host.text : Host → String
  | .domain name => name
  | .ipv4 a => String.intercalate "."
    [decimal (a / 0x1000000 % 256), decimal (a / 0x10000 % 256), decimal (a / 0x100 % 256),
      decimal (a % 256)]
  | .ipv6 pieces => "[" ++ writeIpv6 pieces ++ "]"

def UriPath.text : UriPath → String
  | .segments parts => String.join (parts.map ("/" ++ ·))
  | .rootless text => text

namespace Uri

/-- User and password before the host, if there are any. -/
def userinfo (u : Uri) : String :=
  match u.username, u.password with
  | "", none => ""
  | name, none => name ++ "@"
  | name, some password => name ++ ":" ++ password ++ "@"

/-- What stands between the scheme and the path. -/
def authority (u : Uri) : String :=
  match u.host, u.path with
  | some host, _ =>
    "//" ++ u.userinfo ++ host.text ++ (u.port.map fun p => ":" ++ decimal p).getD ""
  -- Two slashes at the start of the path would be read as an authority.
  | none, .segments ("" :: _ :: _) => "/."
  | none, _ => ""

def text (u : Uri) : String :=
  u.scheme ++ ":" ++ u.authority ++ u.path.text ++ (u.query.map ("?" ++ ·)).getD "" ++
    (u.fragment.map ("#" ++ ·)).getD ""

/-- Whether relative references can be resolved against a URI. -/
def isBase (u : Uri) : Bool :=
  match u.path with
  | .segments _ => true
  | .rootless _ => false

/-! ### Character sets

The characters that are escaped in each part, besides those outside ASCII. -/

def fragmentSet (c : Char) : Bool :=
  Text.Percent.isControl c || c == ' ' || c == '"' || c == '<' || c == '>' || c == '\x60'

def pathSet (c : Char) : Bool :=
  fragmentSet c || c == '#' || c == '?' || c == '{' || c == '}'

def userinfoSet (c : Char) : Bool :=
  pathSet c || c == '/' || c == ':' || c == ';' || c == '=' || c == '@' || c == '[' || c == '\\' ||
    c == ']' || c == '^' || c == '|'

/-- A file name as a path segment of a URI whose scheme treats the backslash as a slash. -/
def fileNameSet (c : Char) : Bool :=
  pathSet c || c == '/' || c == '%' || c == '\\'

def querySet (c : Char) : Bool :=
  Text.Percent.isControl c || c == ' ' || c == '"' || c == '#' || c == '<' || c == '>'

def specialQuerySet (c : Char) : Bool :=
  querySet c || c == '\''

/-! ### Fragments -/

/-- The line breaks and tabs that are dropped wherever they stand in a URI. -/
def isDropped (c : Char) : Bool := c == '\t' || c == '\n' || c == '\r'

def withFragment (u : Uri) (fragment : String) : Uri :=
  let cs := fragment.toList.filter (!isDropped ·)
  { u with fragment := some (String.ofList (Text.Percent.encodeChars fragmentSet cs)) }

def dropTrailingSpaces (s : String) : String :=
  String.ofList ((s.toList.reverse.dropWhile (· == ' ')).reverse)

/-- A URI without its fragment. -/
def withoutFragment (u : Uri) : Uri :=
  match u.path, u.query with
  -- Spaces at the end of the URI would not survive reading it again.
  | .rootless t, none => { u with path := .rootless (dropTrailingSpaces t), fragment := none }
  | _, _ => { u with fragment := none }

end Uri

end SchemaBeans
