import SchemaBeans.Text.Alphanumeric
import SchemaBeans.Text.Blank
import SchemaBeans.Text.Percent

/-! Patterns for the values of fields.

A pattern is a regular expression. No message has a value to compare with one, so all that counts is
whether a text is a pattern: its groups and classes are closed, a repetition has something to repeat, and
escapes, flags and ranges mean something. Counted repetitions are not known, nor are case folding, classes
and word boundaries beyond ASCII. -/

namespace SchemaBeans.Pattern

/-- How a pattern is read. Flags change this up to the end of their group. -/
structure Mode where
  /-- Whether characters outside ASCII count. -/
  wide : Bool
  ignoreCase : Bool
  /-- Whether blanks and comments are left out. -/
  spaced : Bool
deriving DecidableEq, Repr

namespace Mode

def start : Mode := ⟨true, false, false⟩

/-- Sets a flag. The other flags do not change what is a pattern. -/
def set (m : Mode) (flag : Char) (on : Bool) : Mode :=
  match flag with
  | 'u' => { m with wide := on }
  | 'i' => { m with ignoreCase := on }
  | 'x' => { m with spaced := on }
  | _ => m

def foldsWide (m : Mode) : Bool := m.wide && m.ignoreCase

end Mode

/-- A text without the blanks and comments at its start; a comment goes from a hash to the end of a
    line. -/
def skipBlanks (comment : Bool) : List Char → List Char
  | [] => []
  | c :: rest =>
    if comment then skipBlanks (c != '\n') rest
    else if Text.isBlank c then skipBlanks false rest
    else if c == '#' then skipBlanks true rest
    else c :: rest

def Mode.skip (m : Mode) (cs : List Char) : List Char :=
  if m.spaced then skipBlanks false cs else cs

/-! ### Escapes -/

/-- What a single character or an escape stands for. -/
inductive Atom where
  | literal (c : Char)
  /-- Any of several characters. -/
  | set
  /-- A place in the text. -/
  | place
deriving DecidableEq, Repr

/-- The character with a code of so many hexadecimal digits, and the text after them. -/
def hexChar? (count : Nat) (cs : List Char) : Option (Char × List Char) :=
  match (cs.take count).mapM Text.Percent.hexValue? with
  | some digits =>
    let code := digits.foldl (fun n d => n * 16 + d) 0
    if digits.length = count ∧ code.isValidChar then some (Char.ofNat code, cs.drop count) else none
  | none => none

/-- What stands after a backslash, and the text after it. Without an own meaning a letter or a digit has
    no escape. -/
def escape? (m : Mode) : List Char → Option (Atom × List Char)
  | [] => none
  | c :: rest => match c with
    | 'x' => match hexChar? 2 rest with
      | some (c, rest) => if m.wide || c.toNat < 0x80 then some (.literal c, rest) else none
      | none => none
    | 'u' => (hexChar? 4 rest).map fun (c, rest) => (.literal c, rest)
    | 'U' => (hexChar? 8 rest).map fun (c, rest) => (.literal c, rest)
    | 'a' => some (.literal '\x07', rest)
    | 'f' => some (.literal '\x0c', rest)
    | 'n' => some (.literal '\n', rest)
    | 'r' => some (.literal '\r', rest)
    | 't' => some (.literal '\t', rest)
    | 'v' => some (.literal '\x0b', rest)
    | 'A' | 'z' => some (.place, rest)
    | 'b' | 'B' | '<' | '>' => if m.wide then none else some (.place, rest)
    | 'd' | 's' | 'w' => if m.wide then none else some (.set, rest)
    | _ => if c.toNat < 0x80 && !c.isAlphanum then some (.literal c, rest) else none

def atom? (m : Mode) : List Char → Option (Atom × List Char)
  | [] => none
  | '\\' :: rest => escape? m rest
  | c :: rest => some (.literal c, rest)

/-! ### Classes -/

def classNames : List String :=
  ["alnum", "alpha", "ascii", "blank", "cntrl", "digit", "graph", "lower", "print", "punct", "space",
    "upper", "word", "xdigit"]

/-- The text after a named class, such as `[:alpha:]` or `[:^alpha:]`, given what follows its bracket. -/
def afterNamedClass? (m : Mode) : List Char → Option (List Char)
  | ':' :: rest =>
    let negated := rest.head? == some '^'
    let body := if negated then rest.drop 1 else rest
    let name := body.takeWhile (· != ':')
    match body.drop name.length with
    | ':' :: ']' :: after =>
      if classNames.contains (String.ofList name) && (m.wide || !negated) then some after else none
    | _ => none
  | _ => none

/-- The text after the start of a class, given what follows its bracket: a caret, hyphens, and a closing
    bracket that is the first character. -/
def classStart? (m : Mode) (cs : List Char) : Option (List Char) :=
  let text := m.skip cs
  let negated := text.head? == some '^'
  let body := if negated then m.skip (text.drop 1) else text
  if negated && !m.wide then none
  else match body with
    | ']' :: rest => some rest
    | _ => some (body.dropWhile (· == '-'))

/-- The text after a member of a class: a character, an escape or a range in ascending order. -/
def afterMember? (m : Mode) (cs : List Char) : Option (List Char) :=
  match atom? m cs with
  | none => none
  | some (first, rest) => match m.skip rest with
    | '-' :: after =>
      let second := m.skip after
      if second.head? == some ']' || second.head? == some '-' then alone first ('-' :: after)
      else match first, atom? m second with
        | .literal a, some (.literal b, rest) =>
          if a ≤ b && (m.wide || b.toNat < 0x80) then some rest else none
        | _, _ => none
    | rest => alone first rest
where
  alone (member : Atom) (rest : List Char) : Option (List Char) :=
    match member with
    | .literal c => if m.wide || c.toNat < 0x80 then some rest else none
    | .set => some rest
    | .place => none

/-- The text after a class, given what follows its start and the number of classes around it. -/
def afterClass? (m : Mode) : Nat → Nat → List Char → Option (List Char)
  | 0, _, _ => none
  | fuel + 1, depth, cs => match m.skip cs with
    | [] => none
    | '[' :: rest => match afterNamedClass? m rest with
      | some after => afterClass? m fuel depth after
      | none => (classStart? m rest).bind (afterClass? m fuel (depth + 1))
    | ']' :: rest => if depth = 0 then some rest else afterClass? m fuel (depth - 1) rest
    | '&' :: '&' :: rest => afterClass? m fuel depth rest
    | '-' :: '-' :: rest => afterClass? m fuel depth rest
    | '~' :: '~' :: rest => afterClass? m fuel depth rest
    | c :: rest => (afterMember? m (c :: rest)).bind (afterClass? m fuel depth)

/-! ### Groups -/

/-- Reads flags, of which `seen` are read already, the latest first: those after a hyphen are taken away.
    A colon starts a group with them, and a bracket sets them for the rest of the group around. -/
def readFlags? (seen : List Char) (m : Mode) : List Char → Option (Mode × Bool × List Char)
  | [] => none
  | c :: rest =>
    if c == ':' || c == ')' then
      if seen.head? == some '-' || c == ')' && seen.isEmpty then none else some (m, c == ':', rest)
    else if seen.contains c || !"-imsuxRU".toList.contains c then none
    else readFlags? (c :: seen) (m.set c (!seen.contains '-')) rest

def readName? (cs : List Char) : Option (String × List Char) :=
  let name := cs.takeWhile (· != '>')
  match name, cs.drop name.length with
  | c :: more, _ :: rest =>
    if (c == '_' || Text.isAlphanumeric c && !c.isDigit) && more.all inName then
      some (String.ofList name, rest)
    else none
  | _, _ => none
where
  inName (c : Char) : Bool := Text.isAlphanumeric c || c == '_' || c == '.' || c == '[' || c == ']'

/-- A pattern being read. -/
structure Reader where
  mode : Mode
  /-- The modes around the open groups, the innermost first. -/
  outer : List Mode
  names : List String
  /-- Whether there is something to repeat. -/
  operand : Bool
deriving Repr

namespace Reader

def enter (r : Reader) (mode : Mode) : Reader :=
  { r with mode := mode, outer := r.mode :: r.outer, operand := false }

def open? (r : Reader) (cs : List Char) : Option (Reader × List Char) :=
  match cs with
  | '?' :: 'P' :: '<' :: rest => named rest
  | '?' :: '<' :: rest => named rest
  | '?' :: rest => (readFlags? [] r.mode rest).map fun (mode, group, rest) =>
    (if group then r.enter mode else { r with mode := mode, operand := false }, rest)
  | _ => some (r.enter r.mode, cs)
where
  named (cs : List Char) : Option (Reader × List Char) :=
    match readName? cs with
    | some (name, rest) =>
      if r.names.contains name then none
      else some ({ r.enter r.mode with names := name :: r.names }, rest)
    | none => none

def afterItem? (r : Reader) : List Char → Option (List Char)
  | '.' :: rest => if r.mode.wide then some rest else none
  | '^' :: rest => some rest
  | '$' :: rest => some rest
  | '[' :: rest =>
    if r.mode.foldsWide then none
    else (classStart? r.mode rest).bind (afterClass? r.mode (rest.length + 1) 0)
  | cs => match atom? r.mode cs with
    | some (.literal _, rest) => if r.mode.foldsWide then none else some rest
    | some (_, rest) => some rest
    | none => none

/-- Whether a pattern goes on with a text and ends there. -/
def accepts : Nat → Reader → List Char → Bool
  | 0, _, _ => false
  | fuel + 1, r, cs => match r.mode.skip cs with
    | [] => r.outer.isEmpty
    | '(' :: rest => match r.open? (r.mode.skip rest) with
      | some (r, rest) => accepts fuel r rest
      | none => false
    | ')' :: rest => match r.outer with
      | mode :: outer => accepts fuel { r with mode := mode, outer := outer, operand := true } rest
      | [] => false
    | '|' :: rest => accepts fuel { r with operand := false } rest
    | '{' :: _ => false
    | c :: rest =>
      if c == '*' || c == '+' || c == '?' then
        r.operand && accepts fuel r (match rest with
          | '?' :: rest => rest
          | _ => rest)
      else match r.afterItem? (c :: rest) with
        | some rest => accepts fuel { r with operand := true } rest
        | none => false

end Reader

def isPattern (cs : List Char) : Bool := Reader.accepts (cs.length + 1) ⟨Mode.start, [], [], false⟩ cs

end SchemaBeans.Pattern
