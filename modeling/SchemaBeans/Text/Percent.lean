import SchemaBeans.Text.Utf8

/-! Percent-encoding.

An octet that may not stand for itself is written as `%` and two upper-case hexadecimal digits.
Reading turns every `%` that two hexadecimal digits follow into its octet and leaves every other
`%` alone. -/

namespace SchemaBeans.Text.Percent

/-- The upper-case hexadecimal digit of a value below sixteen. -/
def hexDigit (n : Nat) : Char :=
  if n < 10 then Char.ofNat (0x30 + n) else Char.ofNat (0x37 + n)

def hexValue? (c : Char) : Option Nat :=
  if '0' ≤ c && c ≤ '9' then some (c.toNat - 0x30)
  else if 'a' ≤ c && c ≤ 'f' then some (c.toNat - 0x57)
  else if 'A' ≤ c && c ≤ 'F' then some (c.toNat - 0x37)
  else none

def escape (b : UInt8) : List Char :=
  ['%', hexDigit (b.toNat / 16), hexDigit (b.toNat % 16)]

/-- The characters that stand for one octet: itself where it is ASCII and not in the set. -/
def encodeOctet (escaped : Char → Bool) (b : UInt8) : List Char :=
  let c := Char.ofNat b.toNat
  if b.toNat < 0x80 && !escaped c then [c] else escape b

/-- Text with every octet outside ASCII and every character of the set escaped. -/
def encodeChars (escaped : Char → Bool) (cs : List Char) : List Char :=
  cs.flatMap fun c => (String.utf8EncodeChar c).flatMap (encodeOctet escaped)

@[inherit_doc encodeChars]
def encode (escaped : Char → Bool) (s : String) : String :=
  String.ofList (encodeChars escaped s.toList)

/-- The octet that two leading hexadecimal digits spell. -/
def octet? : List Char → Option UInt8
  | a :: b :: _ => match hexValue? a, hexValue? b with
    | some x, some y => some (UInt8.ofNat (x * 16 + y))
    | _, _ => none
  | _ => none

/-- The octets that encoded text stands for, after skipping some characters already read. -/
def octetsFrom : Nat → List Char → List UInt8
  | _, [] => []
  | skip + 1, _ :: rest => octetsFrom skip rest
  | 0, c :: rest =>
    if c = '%' then match octet? rest with
      | some b => b :: octetsFrom 2 rest
      | none => String.utf8EncodeChar c ++ octetsFrom 0 rest
    else String.utf8EncodeChar c ++ octetsFrom 0 rest

def octets (cs : List Char) : List UInt8 :=
  octetsFrom 0 cs

/-- The text that encoded text stands for; octets that are not UTF-8 become U+FFFD. -/
def decode (s : String) : String :=
  Utf8.decode (octets s.toList)

/-- The characters below space, and delete. -/
def isControl (c : Char) : Bool :=
  c.toNat < 0x20 || c.toNat == 0x7F

end SchemaBeans.Text.Percent
