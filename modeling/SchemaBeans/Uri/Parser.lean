import SchemaBeans.Text.Split
import SchemaBeans.Uri.Host

/-! Reading URIs and resolving references.

Blanks around the text are dropped, and tabs and line breaks anywhere in it. The special schemes
(`http`, `https`, `ws`, `wss`, `ftp`, `file`) always have an authority, also where slashes are missing,
and read a backslash as a slash. Dot segments are resolved, also those written with `%2e`, and the
default port of a scheme is dropped. A segment that is a drive letter is never stepped over. A file URI
has no empty segments before its first name, and no host before a drive letter; a tab or a line break
sets a drive letter off from what follows it. -/

namespace SchemaBeans.Uri

/-- How a scheme is read. -/
inductive SchemeKind where
  | file
  | special
  | other
deriving DecidableEq, Repr

def schemeKind (scheme : String) : SchemeKind :=
  if scheme == "file" then .file
  else if ["http", "https", "ws", "wss", "ftp"].contains scheme then .special
  else .other

def SchemeKind.isSpecial : SchemeKind → Bool
  | .other => false
  | _ => true

def defaultPort? (scheme : String) : Option Nat :=
  if scheme == "http" || scheme == "ws" then some 80
  else if scheme == "https" || scheme == "wss" then some 443
  else if scheme == "ftp" then some 21
  else none

def isSchemeChar (c : Char) : Bool :=
  c.isAlphanum || c == '+' || c == '-' || c == '.'

/-- The characters of a text that count. -/
def significant (cs : List Char) : List Char := cs.filter (!isDropped ·)

/-- The scheme in lower case and the text after its colon. -/
def splitScheme? (cs : List Char) : Option (String × List Char) :=
  let inScheme (c : Char) : Bool := isSchemeChar c || isDropped c
  match significant (cs.takeWhile inScheme), cs.dropWhile inScheme with
  | c :: scheme, ':' :: rest =>
    if c.isAlpha then some (String.ofList ((c :: scheme).map Char.toLower), rest) else none
  | _, _ => none

def isSlash (kind : SchemeKind) (c : Char) : Bool :=
  c == '/' || kind.isSpecial && c == '\\'

def isAnySlash (c : Char) : Bool := c == '/' || c == '\\'

def endsPath (c : Char) : Bool := c == '?' || c == '#'

/-! ### Paths -/

/-- A letter followed by a colon or a bar. -/
def isDriveLetter (cs : List Char) : Bool :=
  match cs with
  | [a, b] => a.isAlpha && (b == ':' || b == '|')
  | _ => false

/-- Whether a text starts with a drive letter as its first segment. -/
def startsWithDriveLetter (cs : List Char) : Bool :=
  match cs with
  | [a, b] => isDriveLetter [a, b]
  | a :: b :: c :: _ => isDriveLetter [a, b] && (isAnySlash c || endsPath c)
  | _ => false

/-- A drive letter that is written with a colon. -/
def isDrive (segment : String) : Bool :=
  match segment.toList with
  | [a, b] => a.isAlpha && b == ':'
  | _ => false

def isDoubleDot (segment : String) : Bool :=
  ["..", ".%2e", "%2e.", "%2e%2e"].contains (String.ofList (segment.toList.map Char.toLower))

def isSingleDot (segment : String) : Bool :=
  [".", "%2e"].contains (String.ofList (segment.toList.map Char.toLower))

/-- The segments one level up. A drive letter is not left. -/
def parent (segments : List String) : List String :=
  match segments.getLast? with
  | some last => if startsWithDriveLetter last.toList then segments else segments.dropLast
  | none => []

/-- The drive letter that a segment stands for, written with a colon. -/
def driveOf (segment : List Char) : String := String.ofList (segment.take 1 ++ [':'])

/-- A drive letter with a colon that a dropped character sets off from more text, and that text. -/
def setOffDrive? (piece : List Char) : Option (List Char × List Char) :=
  let drive := piece.takeWhile (· != ':') ++ [':']
  match piece.dropWhile (· != ':') with
  | _ :: gap :: rest =>
    if isDriveLetter (significant drive) && isDropped gap && !(significant rest).isEmpty then
      some (significant drive, significant rest)
    else none
  | _ => none

def encodeSegment (cs : List Char) : String := String.ofList (Text.Percent.encodeChars pathSet cs)

/-- Adds one written segment to a path, with dot segments resolved. -/
def addSegment (kind : SchemeKind) (done : List String) (piece : List Char) (last : Bool) :
    List String :=
  let segment := encodeSegment (significant piece)
  let atDrive := kind == .file && done.isEmpty
  -- A text that is set off from a drive letter is a segment as it stands.
  match if atDrive then setOffDrive? piece else none with
  | some (drive, rest) => [driveOf drive, encodeSegment rest]
  | none =>
    -- A dot segment that ends the path leaves an empty segment.
    if isDoubleDot segment then
      if last then parent done ++ [""] else parent done
    else if isSingleDot segment then
      if last then done ++ [""] else done
    else if atDrive && isDriveLetter (significant piece) then [driveOf (significant piece)]
    else done ++ [segment]

def addSegments (kind : SchemeKind) (done : List String) : List (List Char) → List String
  | [] => done
  | [piece] => addSegment kind done piece true
  | piece :: rest => addSegments kind (addSegment kind done piece false) rest

/-- In a file URI empty segments at the start of the path are dropped. -/
def normalizePath (kind : SchemeKind) (segments : List String) : List String :=
  match kind with
  | .file => match segments.dropWhile (· == "") with
    | [] => [""]
    | rest => rest
  | _ => segments

/-- The path that starts with given segments and goes on with written ones. -/
def readPath (kind : SchemeKind) (done : List String) (cs : List Char) : List String :=
  normalizePath kind (addSegments kind done (cs.splitOnP (isSlash kind)))

/-- A path after an authority: nothing, or a slash and segments. A special scheme has at least an empty
    segment. -/
def pathAfterAuthority (kind : SchemeKind) (cs : List Char) : List String :=
  match cs with
  | [] => if kind.isSpecial then [""] else []
  | c :: rest => if isSlash kind c then readPath kind [] rest else readPath kind [] cs

/-! ### Query and fragment -/

/-- Sets query and fragment from the text that follows the path. -/
def finish (kind : SchemeKind) (u : Uri) (text : List Char) : Uri :=
  let cs := significant text
  let before := cs.takeWhile (· != '#')
  let set := if kind.isSpecial then specialQuerySet else querySet
  let query := match before with
    | '?' :: query => some (String.ofList (Text.Percent.encodeChars set query))
    | _ => none
  let fragment := match cs.dropWhile (· != '#') with
    | _ :: fragment => some (String.ofList (Text.Percent.encodeChars fragmentSet fragment))
    | [] => none
  { u with query := query, fragment := fragment }

/-- A URI up to its path, completed with the path, query and fragment of a text. -/
def finishPath (kind : SchemeKind) (u : Uri) (path : List Char → List String) (cs : List Char) : Uri :=
  finish kind { u with path := .segments (path (cs.takeWhile (!endsPath ·))) }
    (cs.dropWhile (!endsPath ·))

/-! ### Authority -/

/-- The text before the last `@`, if there is one, and the text after it. -/
def splitUserinfo (cs : List Char) : Option (List Char) × List Char :=
  match cs.reverse.dropWhile (· != '@') with
  | [] => (none, cs)
  | _ :: front => (some front.reverse, (cs.reverse.takeWhile (· != '@')).reverse)

/-- User name and password; an empty password is none. -/
def readUserinfo (cs : List Char) : String × Option String :=
  let escape (cs : List Char) := String.ofList (Text.Percent.encodeChars userinfoSet cs)
  let name := escape (cs.takeWhile (· != ':'))
  match cs.dropWhile (· != ':') with
  | _ :: c :: rest => (name, some (escape (c :: rest)))
  | _ => (name, none)

/-- The host and what follows it. A colon ends a host outside of brackets. -/
def splitHost (brackets : Bool) (done : List Char) : List Char → List Char × List Char
  | [] => (done.reverse, [])
  | c :: rest =>
    if c == ':' && !brackets then (done.reverse, c :: rest)
    else splitHost (if c == '[' then true else if c == ']' then false else brackets) (c :: done) rest

/-- A port below 65536 and the text after it; no digits are no port. -/
def readPort (scheme : String) (cs : List Char) : Except UriError (Option Nat × List Char) :=
  let digits := cs.takeWhile Char.isDigit
  let rest := cs.dropWhile Char.isDigit
  let port := digits.foldl (fun n c => n * 10 + (c.toNat - 0x30)) 0
  -- A port ends with the authority or at a backslash.
  if 65535 < port || !(rest.head?.all (· == '\\')) then .error .invalidPort
  -- The scheme's own port is dropped.
  else if digits.isEmpty || some port == defaultPort? scheme then .ok (none, rest)
  else .ok (some port, rest)

/-- A URI with an authority, given the text after its two slashes. -/
def afterSlashes (scheme : String) (cs : List Char) : Except UriError Uri :=
  let kind := schemeKind scheme
  let inAuthority (c : Char) : Bool := !isSlash kind c && !endsPath c
  let rest := cs.dropWhile inAuthority
  let (user, hostPort) := splitUserinfo (cs.takeWhile inAuthority)
  let (name, password) := readUserinfo (user.getD [])
  let (hostText, portText) := splitHost false [] hostPort
  -- A host may be empty in a scheme that is not special, if nothing else is said about it.
  let hostMissing := hostText.isEmpty &&
    (kind.isSpecial || !portText.isEmpty || user.isSome && (name, password) != ("", none) ||
      user == some [] && !rest.isEmpty)
  if hostMissing then .error .emptyHost
  else do
    let host ← if kind.isSpecial then Host.special hostText else Host.other hostText
    let (port, afterPort) ← readPort scheme (portText.drop 1)
    return finishPath kind
      { scheme := scheme, username := name, password := password, host := some host, port := port
        path := .segments [], query := none, fragment := none }
      (pathAfterAuthority kind) (afterPort ++ rest)

/-! ### Schemes -/

/-- A `file` URI with a host and without user, port, query and fragment. -/
def fileUri (host : Host) (segments : List String) : Uri :=
  { scheme := "file", username := "", password := none, host := some host, port := none
    path := .segments segments, query := none, fragment := none }

/-- The host of a file URI; `localhost` is none. -/
def readFileHost (cs : List Char) : Except UriError Host :=
  if cs.isEmpty then .ok (.domain "")
  else (Host.special cs).map fun host => if host == .domain "localhost" then .domain "" else host

/-- A file URI, given the text after two slashes. -/
def fileAfterSlashes (cs : List Char) : Except UriError Uri :=
  let inHost (c : Char) : Bool := !isAnySlash c && !endsPath c
  let hostText := significant (cs.takeWhile inHost)
  -- A drive letter in place of the host belongs to the path.
  if isDriveLetter hostText then .ok (finishPath .file (fileUri (.domain "") []) (readPath .file []) cs)
  else do
    let host ← readFileHost hostText
    let rest := cs.dropWhile inHost
    -- The slash before the path counts as an empty segment, so that a drive letter after it stays as written.
    if host = .domain "" then
      return finishPath .file (fileUri host []) (readPath .file []) rest
    else
      -- A drive letter at the start of the path leaves no host.
      let written := (rest.takeWhile (!endsPath ·)).drop 1
      let parts := addSegments .file [] (written.splitOnP (isSlash .file))
      return finishPath .file (fileUri (if parts.head?.any isDrive then .domain "" else host) [])
        (fun _ => normalizePath .file parts) rest

/-- The segments of a path; none where the path is rootless. -/
def segments (u : Uri) : List String :=
  match u.path with
  | .segments parts => parts
  | .rootless _ => []

/-- A path relative to the path of a file URI, whose last segment is left out unless it is a drive
    letter. -/
def readBelow (base : List String) (cs : List Char) : List String :=
  match base.getLast? with
  | some last =>
    let first := String.ofList (significant (cs.takeWhile (!isAnySlash ·)))
    if !isDrive last then readPath .file base.dropLast cs
    -- Only after a drive letter that is the whole base the text starts a segment of its own.
    else if base.length = 1 || isSingleDot first || isDoubleDot first then readPath .file base cs
    else readPath .file base.dropLast (last.toList ++ cs)
  | none => readPath .file [] cs

/-- A file URI, given the text after the scheme or a reference, and the file URI it is relative to. The
    text may have characters that do not count. -/
def readFile (base : Option Uri) (cs : List Char) : Except UriError Uri :=
  match cs.dropWhile isDropped with
  | [] => .ok (match base with
    | some b => { b with fragment := none }
    | none => fileUri (.domain "") [""])
  | c :: rest =>
    if !isAnySlash c then .ok (fileRelative c (c :: rest))
    else match rest.dropWhile isDropped with
      | d :: after => if isAnySlash d then fileAfterSlashes after else .ok (fileRooted rest)
      | [] => .ok (fileRooted rest)
where
  /-- A path from the root takes over the host or the drive letter of the base. -/
  fileRooted (rest : List Char) : Uri :=
    let u := match base with
      | some b =>
        if startsWithDriveLetter (significant rest) then fileUri (.domain "") []
        else match b.segments with
          | first :: _ =>
            if isDrive first then fileUri (.domain "") [first]
            else fileUri (b.host.getD (.domain "")) []
          | [] => fileUri (b.host.getD (.domain "")) []
      | none => fileUri (.domain "") []
    finishPath .file u (readPath .file u.segments) rest
  /-- A text that starts with a character other than a slash. -/
  fileRelative (c : Char) (cs : List Char) : Uri :=
    match base with
    | none => finishPath .file (fileUri (.domain "") []) (readPath .file []) cs
    | some b =>
      if c == '?' then finish .file b cs
      else if c == '#' then { finish .file b cs with query := b.query }
      else if startsWithDriveLetter (significant cs) then
        finishPath .file (fileUri (.domain "") []) (readPath .file []) cs
      else finishPath .file b (readBelow b.segments) cs

/-- A reference without a scheme, relative to a base that is no file URI. -/
def readRelative (base : Uri) (cs : List Char) : Except UriError Uri :=
  let kind := schemeKind base.scheme
  match cs with
  | [] => .ok { base with fragment := none }
  | c :: rest =>
    if c == '?' then .ok (finish kind base cs)
    else if c == '#' then .ok { finish kind base cs with query := base.query }
    else if isAnySlash c then
      match cs with
      | '/' :: '/' :: after => afterSlashes base.scheme after
      | _ =>
        if (rest.head?.map isAnySlash).getD false then
          afterSlashes base.scheme (cs.dropWhile isAnySlash)
        else .ok (finishPath kind base (readPath kind []) rest)
    else .ok (finishPath kind base (readPath kind base.segments.dropLast) cs)

/-- A URI of a scheme that is not special, given the text after the scheme. -/
def readOther (scheme : String) (cs : List Char) : Except UriError Uri :=
  match cs with
  | '/' :: '/' :: rest => afterSlashes scheme rest
  | '/' :: rest => .ok (finishPath .other (plain (.segments [])) (readPath .other []) rest)
  | _ =>
    let path := cs.takeWhile (!endsPath ·)
    .ok (finish .other
      (plain (.rootless (String.ofList (Text.Percent.encodeChars Text.Percent.isControl path))))
      (cs.dropWhile (!endsPath ·)))
where
  plain (path : UriPath) : Uri :=
    { scheme := scheme, username := "", password := none, host := none, port := none, path := path
      query := none, fragment := none }

/-- A URI, given its scheme and the text after it. -/
def readScheme (base : Option Uri) (scheme : String) (text : List Char) : Except UriError Uri :=
  let cs := significant text
  match schemeKind scheme with
  | .file => readFile (base.filter (·.scheme == "file")) text
  | .special =>
    let slashes := (cs.takeWhile isAnySlash).length
    match base with
    | some b =>
      -- The scheme of the base may be followed by a reference relative to it.
      if slashes < 2 && b.scheme == scheme then readRelative b cs
      else afterSlashes scheme (cs.drop slashes)
    | none => afterSlashes scheme (cs.drop slashes)
  | .other => readOther scheme cs

/-- Blanks and control characters, which are dropped around a URI. -/
def isPadding (c : Char) : Bool := c.toNat ≤ 0x20

/-- A URI or a reference relative to a base, if there is one. -/
def resolve (base : Option Uri) (s : String) : Except UriError Uri :=
  let text := Text.trimEnds isPadding s.toList
  match splitScheme? text, base with
  | some (scheme, rest), _ => readScheme base scheme rest
  | none, none => .error .relativeWithoutBase
  | none, some b =>
    let cs := significant text
    -- A fragment goes with any base, also with a rootless one.
    if cs.head? == some '#' then
      let kind := schemeKind b.scheme
      .ok { finish kind b cs with query := b.query }
    else if !b.isBase then .error .relativeToRootless
    else if schemeKind b.scheme == .file then readFile base text
    else readRelative b cs

def parse (s : String) : Except UriError Uri := resolve none s

def join (base : Uri) (reference : String) : Except UriError Uri := resolve (some base) reference

end SchemaBeans.Uri
