import SchemaBeans.Json.Basic

/-! JSON text.

Reading is strict: nothing but blanks around the value, no comments, no trailing commas, no leading
zeros, no raw control characters in strings. The result is the structure of the text, with repeated
keys kept. A string with an escaped surrogate that has no partner and a number beyond the largest
double are well-formed text without a value, so they are kept as `none`: they matter only to a reader
that looks at them. -/

namespace SchemaBeans

/-- The structure of a JSON text. -/
inductive JsonText where
  | null
  | bool (value : Bool)
  | number (value : Option Number)
  | string (value : Option String)
  | array (items : List JsonText)
  | object (fields : List (Option String × JsonText))
deriving Repr, Inhabited

namespace JsonText

def isBlank (c : Char) : Bool :=
  c == ' ' || c == '\t' || c == '\n' || c == '\r'

def skipBlanks (cs : List Char) : List Char :=
  cs.dropWhile isBlank

/-! ### Strings -/

/-- What a string is written with: characters, and escaped UTF-16 units. -/
inductive Piece where
  | char (c : Char)
  | unit (u : Nat)
deriving Repr

def hexValue? (c : Char) : Option Nat :=
  if '0' ≤ c && c ≤ '9' then some (c.toNat - 0x30)
  else if 'a' ≤ c && c ≤ 'f' then some (c.toNat - 0x57)
  else if 'A' ≤ c && c ≤ 'F' then some (c.toNat - 0x37)
  else none

def hexUnit? (a b c d : Char) : Option Nat :=
  match hexValue? a, hexValue? b, hexValue? c, hexValue? d with
  | some a, some b, some c, some d => some (((a * 16 + b) * 16 + c) * 16 + d)
  | _, _, _, _ => none

def escaped? : Char → Option Char
  | '"' => some '"'
  | '\\' => some '\\'
  | '/' => some '/'
  | 'b' => some '\x08'
  | 'f' => some '\x0c'
  | 'n' => some '\n'
  | 'r' => some '\r'
  | 't' => some '\t'
  | _ => none

/-- The rest of a string after its opening quote, and what follows the closing one. -/
def stringPieces (done : List Piece) : List Char → Option (List Piece × List Char)
  | [] => none
  | '"' :: rest => some (done.reverse, rest)
  | '\\' :: 'u' :: a :: b :: c :: d :: rest => match hexUnit? a b c d with
    | some u => stringPieces (.unit u :: done) rest
    | none => none
  | '\\' :: e :: rest => match escaped? e with
    | some c => stringPieces (.char c :: done) rest
    | none => none
  | c :: rest => if c.toNat < 0x20 then none else stringPieces (.char c :: done) rest

def isLeadUnit (u : Nat) : Bool := 0xD800 ≤ u && u < 0xDC00

def isTrailUnit (u : Nat) : Bool := 0xDC00 ≤ u && u < 0xE000

/-- The characters of a string, given the lead surrogate just read if there is one; none if a
    surrogate has no partner next to it. -/
def assemble (done : List Char) : Option Nat → List Piece → Option String
  | none, [] => some (String.ofList done.reverse)
  | some _, [] => none
  | none, .char c :: rest => assemble (c :: done) none rest
  | some _, .char _ :: _ => none
  -- A unit is a character by itself, or the first of two surrogates.
  | none, .unit u :: rest =>
    if isLeadUnit u then assemble done (some u) rest
    else if isTrailUnit u then none
    else assemble (Char.ofNat u :: done) none rest
  | some lead, .unit u :: rest =>
    if isTrailUnit u then
      assemble (Char.ofNat (0x10000 + (lead - 0xD800) * 0x400 + (u - 0xDC00)) :: done) none rest
    else none

def readString (cs : List Char) : Option (Option String × List Char) :=
  (stringPieces [] cs).map fun (pieces, rest) => (assemble [] none pieces, rest)

/-! ### Numbers -/

def digits (cs : List Char) : List Char × List Char :=
  (cs.takeWhile Char.isDigit, cs.dropWhile Char.isDigit)

def natOfDigits (ds : List Char) : Nat :=
  ds.foldl (fun n d => n * 10 + (d.toNat - 0x30)) 0

/-- The whole part: zero alone, or digits that do not start with zero. -/
def wholePart : List Char → Option (List Char × List Char)
  | '0' :: rest => some (['0'], rest)
  | cs => match digits cs with
    | ([], _) => none
    | (ds, rest) => some (ds, rest)

/-- The digits after a point; none if there is a point without digits. -/
def fractionPart : List Char → Option (List Char × List Char)
  | '.' :: rest => match digits rest with
    | ([], _) => none
    | (ds, rest) => some (ds, rest)
  | cs => some ([], cs)

/-- The digits of an exponent with a sign before them or not. -/
def exponentDigits (cs : List Char) : Option (Int × List Char) :=
  let (sign, cs) : Int × List Char := match cs with
    | '-' :: rest => (-1, rest)
    | '+' :: rest => (1, rest)
    | _ => (1, cs)
  match digits cs with
  | ([], _) => none
  | (ds, rest) => some (sign * natOfDigits ds, rest)

def exponentPart : List Char → Option (Option Int × List Char)
  | c :: rest =>
    if c == 'e' || c == 'E' then (exponentDigits rest).map fun (e, rest) => (some e, rest)
    else some (none, c :: rest)
  | [] => some (none, [])

/-- Whole numbers of 64 bits, signed or not, are kept as they are; every other number is a double. -/
def numberOf (negative : Bool) (whole fraction : List Char) (exponent : Option Int) :
    Option Number :=
  let n := natOfDigits whole
  -- Minus zero is a double.
  let exact := fraction.isEmpty && exponent.isNone &&
    (if negative then 0 < n && n ≤ Nat.pow 2 63 else n < Nat.pow 2 64)
  if exact then some (.integer (if negative then -n else n))
  else
    (Decimal.Binary64.ofDecimal? negative (natOfDigits (whole ++ fraction))
      (exponent.getD 0 - fraction.length)).map .float

def readNumber (cs : List Char) : Option (JsonText × List Char) := do
  let (negative, cs) := match cs with
    | '-' :: rest => (true, rest)
    | _ => (false, cs)
  let (whole, cs) ← wholePart cs
  let (fraction, cs) ← fractionPart cs
  let (exponent, cs) ← exponentPart cs
  return (.number (numberOf negative whole fraction exponent), cs)

/-! ### Values

Each call uses up one unit of `fuel`. A value, an item or a member takes at least one character, so
twice the length of the text is enough. -/

mutual

def readValue : Nat → List Char → Option (JsonText × List Char)
  | 0, _ => none
  | fuel + 1, cs => match skipBlanks cs with
    | 'n' :: 'u' :: 'l' :: 'l' :: rest => some (.null, rest)
    | 't' :: 'r' :: 'u' :: 'e' :: rest => some (.bool true, rest)
    | 'f' :: 'a' :: 'l' :: 's' :: 'e' :: rest => some (.bool false, rest)
    | '"' :: rest => (readString rest).map fun (s, rest) => (.string s, rest)
    | '[' :: rest => match skipBlanks rest with
      | ']' :: rest => some (.array [], rest)
      | rest => (readItems fuel rest []).map fun (vs, rest) => (.array vs, rest)
    | '{' :: rest => match skipBlanks rest with
      | '}' :: rest => some (.object [], rest)
      | rest => (readMembers fuel rest []).map fun (ms, rest) => (.object ms, rest)
    | rest => readNumber rest

def readItems : Nat → List Char → List JsonText → Option (List JsonText × List Char)
  | 0, _, _ => none
  | fuel + 1, cs, done => match readValue fuel cs with
    | none => none
    | some (v, rest) => match skipBlanks rest with
      | ',' :: rest => readItems fuel rest (v :: done)
      | ']' :: rest => some ((v :: done).reverse, rest)
      | _ => none

def readMembers : Nat → List Char → List (Option String × JsonText) →
    Option (List (Option String × JsonText) × List Char)
  | 0, _, _ => none
  | fuel + 1, cs, done => match skipBlanks cs with
    | '"' :: rest => match readString rest with
      | none => none
      | some (key, rest) => match skipBlanks rest with
        | ':' :: rest => match readValue fuel rest with
          | none => none
          | some (v, rest) => match skipBlanks rest with
            | ',' :: rest => readMembers fuel rest ((key, v) :: done)
            | '}' :: rest => some (((key, v) :: done).reverse, rest)
            | _ => none
        | _ => none
    | _ => none

end

def parse? (s : String) : Option JsonText :=
  let cs := s.toList
  match readValue (2 * cs.length + 2) cs with
  | some (v, rest) => if (skipBlanks rest).isEmpty then some v else none
  | none => none

/-! ### From text to value -/

mutual

/-- The value of a text with at most `room` arrays and objects inside each other. -/
def toJson? : JsonText → Nat → Option Json
  | .null, _ => some .null
  | .bool b, _ => some (.bool b)
  | .number n, _ => n.map .number
  | .string s, _ => s.map .string
  | .array _, 0 => none
  | .array vs, room + 1 => (toItems? vs room).map .array
  | .object _, 0 => none
  -- A repeated key keeps its first place and takes its last value.
  | .object ms, room + 1 => (toFields? ms room).map fun fields => .object (Table.ofEntries fields)

def toItems? : List JsonText → Nat → Option (List Json)
  | [], _ => some []
  | v :: rest, room => match toJson? v room, toItems? rest room with
    | some v, some vs => some (v :: vs)
    | _, _ => none

def toFields? : List (Option String × JsonText) → Nat → Option (List (String × Json))
  | [], _ => some []
  | (key, v) :: rest, room => match key, toJson? v room, toFields? rest room with
    | some key, some v, some fields => some ((key, v) :: fields)
    | _, _, _ => none

end

end JsonText

namespace Json

/-- How many arrays and objects may stand inside each other. -/
def maxDepth : Nat := 127

def parse? (s : String) : Option Json :=
  (JsonText.parse? s).bind (·.toJson? maxDepth)

end Json

end SchemaBeans
