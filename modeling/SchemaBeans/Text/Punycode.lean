/-! Punycode: a text outside ASCII written with letters, digits and hyphens.

The ASCII characters of the text come first, with a hyphen after them. Then every other character
follows, in the order of code points, as the distance to the one before it, counted over code points and
places. Distances are numbers in base 36 with the lowest digit first; a digit below a threshold is the
last one, and thresholds follow the size of the numbers read so far. -/

namespace SchemaBeans.Text.Punycode

/-! ### Numbers -/

/-- The value of a digit: letters count from 0 on and decimal digits from 26 on. -/
def digitValue? (c : Char) : Option Nat :=
  if c.isLower then some (c.toNat - 0x61)
  else if c.isUpper then some (c.toNat - 0x41)
  else if c.isDigit then some (c.toNat - 0x30 + 26)
  else none

/-- The threshold for the last digit of a number, at a place in it; places are 36 apart. -/
def threshold (bias place : Nat) : Nat := max 1 (min 26 (place - bias))

def digitOf (value : Nat) : Char :=
  if value < 26 then Char.ofNat (0x61 + value) else Char.ofNat (0x30 + (value - 26))

/-- A number, given the place of its lowest digit. -/
def writeNumber (bias place number : Nat) : List Char :=
  let t := threshold bias place
  if number < t then [digitOf number]
  else digitOf (t + (number - t) % (36 - t)) :: writeNumber bias (place + 36) ((number - t) / (36 - t))
termination_by number
decreasing_by
  have : 1 ≤ threshold bias place := Nat.le_max_left _ _
  have := Nat.div_le_self (number - threshold bias place) (36 - threshold bias place)
  omega

/-- Divides a number by 35 until it is small, and counts 36 for each division. -/
def scaleDown (n count : Nat) : Nat × Nat :=
  if 455 < n then scaleDown (n / 35) (count + 36) else (n, count)
termination_by n
decreasing_by exact Nat.div_lt_self (by omega) (by omega)

/-- The bias after a number, where a text has the given size now. -/
def adapt (number size : Nat) (first : Bool) : Nat :=
  let n := number / (if first then 700 else 2)
  let (n, count) := scaleDown (n + n / size) 0
  count + 36 * n / (n + 38)

/-! ### Reading -/

/-- A text being read. -/
structure Reader where
  /-- The characters so far. -/
  done : List Char
  /-- The code point of the latest character. -/
  code : Nat
  /-- The index after the latest character. -/
  index : Nat
  bias : Nat
  /-- The number being read, the weight of its next digit, and the place of that digit. -/
  number : Nat
  weight : Nat
  place : Nat
deriving Repr

namespace Reader

def start (ascii : List Char) : Reader := ⟨ascii, 0x80, 0, 72, 0, 1, 36⟩

/-- The next character, at a distance from the latest one. None if the distance leads to no character. -/
def insert? (r : Reader) (number : Nat) : Option Reader :=
  let size := r.done.length + 1
  let code := r.code + (r.index + number) / size
  let index := (r.index + number) % size
  if code.isValidChar then
    some ⟨r.done.take index ++ Char.ofNat code :: r.done.drop index, code, index + 1,
      adapt number size (r.index == 0), 0, 1, 36⟩
  else none

def digit? (r : Reader) (c : Char) : Option Reader :=
  match digitValue? c with
  | none => none
  | some d =>
    let number := r.number + d * r.weight
    let t := threshold r.bias r.place
    if d < t then r.insert? number
    else some { r with number, weight := r.weight * (36 - t), place := r.place + 36 }

def digits? (r : Reader) : List Char → Option (List Char)
  | [] => if r.place = 36 then some r.done else none
  | c :: rest => match r.digit? c with
    | some r => r.digits? rest
    | none => none

end Reader

/-- The ASCII characters at the start of a written text, and the numbers after their hyphen. -/
def splitNumbers (cs : List Char) : List Char × List Char :=
  match cs.reverse.dropWhile (· != '-') with
  | _ :: c :: front => ((c :: front).reverse, (cs.reverse.takeWhile (· != '-')).reverse)
  | _ => ([], cs)

def decode? (cs : List Char) : Option (List Char) :=
  let (ascii, numbers) := splitNumbers cs
  (Reader.start ascii).digits? numbers

/-! ### Writing -/

/-- A text being written. -/
structure Writer where
  /-- What is written so far. -/
  written : List Char
  /-- How many characters it stands for. -/
  size : Nat
  /-- The code point of the latest character. -/
  code : Nat
  /-- The index after the latest character among those so far. -/
  index : Nat
  bias : Nat
deriving Repr

/-- Writes the character at a place in the text. The characters so far are those with lower code points
    and the equal ones before the place. -/
def Writer.add (text : List Char) (w : Writer) (c : Char) (place : Nat) : Writer :=
  let index := ((text.take place).filter (· ≤ c)).length
  let number := (c.toNat - w.code) * (w.size + 1) + index - w.index
  ⟨w.written ++ writeNumber w.bias 36 number, w.size + 1, c.toNat, index + 1,
    adapt number (w.size + 1) (w.index == 0)⟩

def encode (text : List Char) : List Char :=
  let ascii := text.filter (·.toNat < 0x80)
  let others := (text.zipIdx.filter (0x80 ≤ ·.1.toNat)).mergeSort fun a b => a.1 ≤ b.1
  let start : Writer := ⟨if ascii.isEmpty then [] else ascii ++ ['-'], ascii.length, 0x80, 0, 72⟩
  (others.foldl (fun w (c, place) => w.add text c place) start).written

end SchemaBeans.Text.Punycode
