import SchemaBeans.Text.Direction
import SchemaBeans.Text.Folding
import SchemaBeans.Text.Joining
import SchemaBeans.Text.Label
import SchemaBeans.Text.Punycode
import SchemaBeans.Text.Split
import SchemaBeans.Uri.Basic

/-! Reading hosts.

In brackets stands an IPv6 address. In a special scheme any other host is percent-decoded and put in its
basic form; one whose last label is a number is an IPv4 address, in which parts may be decimal, octal or
hexadecimal and the last part fills the remaining octets. Domains are written in ASCII; a label that
starts with `xn--` stands for one that is not. In other schemes the host is any text without the
characters that delimit the parts of a URI. -/

namespace SchemaBeans.Host

/-! ### IPv4 -/

/-- Digits in a base as a number; none if a character is no digit. -/
def digitsIn? (base : Nat) (cs : List Char) : Option Nat :=
  cs.foldl (fun n c => match n, Text.Percent.hexValue? c with
    | some n, some d => if d < base then some (n * base + d) else none
    | _, _ => none) (some 0)

/-- A part of an IPv4 address: hexadecimal after `0x`, octal after `0`, decimal otherwise. -/
def ipv4Number? : List Char → Option Nat
  | [] => none
  | '0' :: 'x' :: rest => digitsIn? 16 rest
  | '0' :: 'X' :: rest => digitsIn? 16 rest
  | '0' :: c :: rest => digitsIn? 8 (c :: rest)
  | cs => digitsIn? 10 cs

/-- The labels of a domain without the empty one after a final dot. -/
def labels (cs : List Char) : List (List Char) :=
  let parts := cs.splitOnP (· == '.')
  if parts.length > 1 && parts.getLast? == some [] then parts.dropLast else parts

/-- Whether a domain is meant as an IPv4 address: its last label is a number. -/
def endsInNumber (cs : List Char) : Bool :=
  match (labels cs).getLast? with
  | some last => (!last.isEmpty && last.all Char.isDigit) || (ipv4Number? last).isSome
  | none => false

def ipv4OfNumbers? (numbers : List Nat) : Option Nat :=
  let front := numbers.dropLast
  match numbers.getLast? with
  | some last =>
    -- The last number fills all octets that are left.
    if numbers.length ≤ 4 && last < Nat.pow 256 (4 - front.length) && front.all (· < 256) then
      some (front.foldl (fun a n => a * 256 + n) 0 * Nat.pow 256 (4 - front.length) + last)
    else none
  | none => none

def ipv4? (cs : List Char) : Option Nat :=
  ((labels cs).mapM ipv4Number?).bind ipv4OfNumbers?

/-! ### IPv6 -/

def ipv6Group? (cs : List Char) : Option Nat :=
  if cs.isEmpty || 4 < cs.length then none else digitsIn? 16 cs

/-- A decimal octet without leading zeros. -/
def octet? (cs : List Char) : Option Nat :=
  match cs with
  | [] => none
  | ['0'] => some 0
  | '0' :: _ => none
  | _ => if cs.all Char.isDigit && cs.length ≤ 3 then
      (digitsIn? 10 cs).bind fun n => if n < 256 then some n else none
    else none

/-- The two groups written as four decimal octets. -/
def dottedGroups? (cs : List Char) : Option (List Nat) :=
  match (cs.splitOnP (· == '.')).mapM octet? with
  | some [a, b, c, d] => some [a * 256 + b, c * 256 + d]
  | _ => none

/-- Groups between colons, the last of which may be dotted octets when `dotted` allows it. -/
def ipv6Groups? (dotted : Bool) : List (List Char) → Option (List Nat)
  | [] => some []
  | [last] =>
    if dotted && last.any (· == '.') then dottedGroups? last else (ipv6Group? last).map ([·])
  | g :: rest => match ipv6Group? g, ipv6Groups? dotted rest with
    | some g, some gs => some (g :: gs)
    | _, _ => none

/-- The groups of a part of an address, which may be empty. -/
def ipv6Side? (dotted : Bool) (cs : List Char) : Option (List Nat) :=
  if cs.isEmpty then some [] else ipv6Groups? dotted (cs.splitOnP (· == ':'))

def splitDoubleColon? (front : List Char) : List Char → Option (List Char × List Char)
  | ':' :: ':' :: rest => some (front.reverse, rest)
  | c :: rest => splitDoubleColon? (c :: front) rest
  | [] => none

/-- Eight groups, of which a run of zeros may be written as a double colon. -/
def ipv6? (cs : List Char) : Option (List Nat) :=
  match splitDoubleColon? [] cs with
  | none => match ipv6Side? true cs with
    | some groups => if groups.length = 8 then some groups else none
    | none => none
  | some (front, back) => match ipv6Side? false front, ipv6Side? true back with
    | some front, some back =>
      -- A double colon stands for one group of zeros at least.
      if front.length + back.length ≤ 7 then
        some (front ++ List.replicate (8 - front.length - back.length) 0 ++ back)
      else none
    | _, _ => none

/-! ### Hosts -/

def isForbiddenInDomain (c : Char) : Bool :=
  Text.Percent.isControl c || " #%/:<>?@[\\]^|".toList.contains c

def isForbiddenInOther (c : Char) : Bool :=
  "\x00\t\n\r #/:<>?@[\\]^|".toList.contains c

def isAscii (label : List Char) : Bool := label.all (·.toNat < 0x80)

/-- Whether a text is a label that is not ASCII: in composed form, with no mark at its start, with joiners
    only where they have a meaning, and with a thousand characters at most. -/
def isWideLabel (label : List Char) : Bool :=
  !isAscii label && label.all (fun c => c.toNat < 0x80 || Text.isLabelChar c) &&
    !(label.head?.any Text.isMark) && !"xn--".toList.isPrefixOf label && label.length ≤ 1000 &&
    Text.joinersFit [] label && Text.Composition.compose label == label

/-- The label that a label in its basic form stands for: after `xn--` one that is not ASCII, written with
    two thousand characters at most, and itself otherwise. -/
def label? (label : List Char) : Option (List Char) :=
  match label with
  | 'x' :: 'n' :: '-' :: '-' :: rest =>
    if rest.length ≤ 2000 then (Text.Punycode.decode? rest).filter isWideLabel else none
  | _ => if isAscii label || isWideLabel label then some label else none

def writeLabel (label : List Char) : List Char :=
  if isAscii label then label else "xn--".toList ++ Text.Punycode.encode label

/-- Whether the labels of a domain keep to their directions, as they must where one runs to the left. -/
def keepDirections (labels : List (List Char)) : Bool :=
  !labels.any Text.runsLeft || labels.all fun label => label.isEmpty || Text.keepsDirection label

/-- A domain in ASCII, given as any text; none if it is no domain. -/
def domain? (cs : List Char) : Option (List Char) :=
  let text := Text.Composition.compose (cs.flatMap Text.Folding.foldChar)
  let labels := text.splitOnP (· == '.')
  match labels.mapM label? with
  | some meant =>
    if !text.any isForbiddenInDomain && keepDirections meant then
      some (['.'].intercalate (labels.map writeLabel))
    else none
  | none => none

def bracketed? (cs : List Char) : Except UriError Host :=
  if cs.getLast? == some ']' then match ipv6? (cs.drop 1).dropLast with
    | some pieces => .ok (.ipv6 pieces)
    | none => .error .invalidIpv6
  else .error .invalidIpv6

def special (cs : List Char) : Except UriError Host :=
  if cs.head? == some '[' then bracketed? cs
  else match domain? (Text.Percent.decode (String.ofList cs)).toList with
    | none => .error .invalidDomain
    | some name =>
      if name.isEmpty then .error .emptyHost
      -- What ends in a number has to be an address.
      else if endsInNumber name then match ipv4? name with
        | some address => .ok (.ipv4 address)
        | none => .error .invalidIpv4
      else .ok (.domain (String.ofList name))

def other (cs : List Char) : Except UriError Host :=
  if cs.head? == some '[' then bracketed? cs
  else if cs.any isForbiddenInOther then .error .invalidDomainCharacter
  else .ok (.domain (String.ofList (Text.Percent.encodeChars Text.Percent.isControl cs)))

end SchemaBeans.Host
