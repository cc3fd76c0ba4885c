/-! UTF-8 in both directions.

Writing is the standard's. Reading accepts any octets: a maximal run of octets that starts a
character but does not finish it becomes one U+FFFD, and reading goes on with the octet that broke
the run. -/

namespace SchemaBeans.Text.Utf8

def encode (s : String) : List UInt8 :=
  s.toList.flatMap String.utf8EncodeChar

/-- A character that has been started: the value read so far, how many more octets it needs, and
    the bounds of the next one. -/
structure Partial where
  value : Nat
  missing : Nat
  low : Nat
  high : Nat
deriving DecidableEq, Repr

/-- What an octet means where a character may start: the character it is, the one it starts, or
    neither. -/
inductive First where
  | whole (c : Char)
  | starts (p : Partial)
  | stray
deriving DecidableEq, Repr

/-- Overlong forms, surrogates and values above U+10FFFF are excluded by the bounds of the second
    octet. -/
def first (b : UInt8) : First :=
  let n := b.toNat
  if n < 0x80 then .whole (Char.ofNat n)
  else if n < 0xC2 then .stray
  else if n < 0xE0 then .starts ⟨n - 0xC0, 1, 0x80, 0xBF⟩
  else if n == 0xE0 then .starts ⟨0, 2, 0xA0, 0xBF⟩
  else if n == 0xED then .starts ⟨n - 0xE0, 2, 0x80, 0x9F⟩
  else if n < 0xF0 then .starts ⟨n - 0xE0, 2, 0x80, 0xBF⟩
  else if n == 0xF0 then .starts ⟨0, 3, 0x90, 0xBF⟩
  else if n < 0xF4 then .starts ⟨n - 0xF0, 3, 0x80, 0xBF⟩
  else if n == 0xF4 then .starts ⟨n - 0xF0, 3, 0x80, 0x8F⟩
  else .stray

def replacement : Char := Char.ofNat 0xFFFD

/-- Reads octets, with the character under way if there is one. -/
def read : Option Partial → List UInt8 → List Char
  | none, [] => []
  | some _, [] => [replacement]
  | none, b :: rest => match first b with
    | .whole c => c :: read none rest
    | .starts p => read (some p) rest
    | .stray => replacement :: read none rest
  | some p, b :: rest =>
    if p.low ≤ b.toNat && b.toNat ≤ p.high then
      let value := p.value * 0x40 + b.toNat % 0x40
      if p.missing == 1 then Char.ofNat value :: read none rest
      else read (some ⟨value, p.missing - 1, 0x80, 0xBF⟩) rest
    else match first b with
      | .whole c => replacement :: c :: read none rest
      | .starts q => replacement :: read (some q) rest
      | .stray => replacement :: replacement :: read none rest

/-- The text of octets, with U+FFFD in place of what is not UTF-8. -/
def decode (bytes : List UInt8) : String :=
  String.ofList (read none bytes)

def decode? (bytes : List UInt8) : Option String :=
  let text := decode bytes
  if encode text = bytes then some text else none

end SchemaBeans.Text.Utf8
