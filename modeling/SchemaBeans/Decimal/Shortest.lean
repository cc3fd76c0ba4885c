import SchemaBeans.Decimal.Binary64

/-! The fewest decimal digits that read back as a given double.

The reals that round to a double form an interval around it, whose ends belong to it when the
mantissa is even. For one digit, two digits and so on up to seventeen, the two decimals of that many
digits next to the double are tried; the first that lies in the interval is taken, and if both do the
nearer one, or the even one of two equally near. Seventeen digits always suffice. -/

namespace SchemaBeans.Decimal

/-- A positive decimal `digits · 10 ^ exponent`. -/
structure Scientific where
  digits : Nat
  exponent : Int
deriving DecidableEq, Repr

namespace Shortest

/-- The reals that round to a double, in units of `1 / den`: from `low` to `high` around `mid`. -/
structure Interval where
  low : Nat
  mid : Nat
  high : Nat
  den : Nat
  closed : Bool
deriving Repr

def Interval.of (x : Binary64) : Interval :=
  -- Below a power of two the neighbouring doubles are twice as dense.
  let below := if x.mantissa == Nat.pow 2 52 && Binary64.minExponent < x.exponent then 1 else 2
  let unit := Nat.pow 2 (x.exponent - 2).toNat
  { low := (4 * x.mantissa - below) * unit
    mid := 4 * x.mantissa * unit
    high := (4 * x.mantissa + 2) * unit
    den := Nat.pow 2 (2 - x.exponent).toNat
    closed := x.mantissa % 2 == 0 }

/-- Whether the fraction `num / den` lies in the interval. -/
def Interval.holds (i : Interval) (num den : Nat) : Bool :=
  let low := i.low * den
  let high := i.high * den
  let x := num * i.den
  if i.closed then low ≤ x && x ≤ high else low < x && x < high

/-- How far the fraction lies from the middle, in units of `1 / (den * i.den)`. -/
def Interval.distance (i : Interval) (num den : Nat) : Nat :=
  let x := num * i.den
  let mid := i.mid * den
  if x ≤ mid then mid - x else x - mid

/-- The decimal `d · 10 ^ e` as a fraction. -/
def fraction (d : Nat) (e : Int) : Nat × Nat :=
  if e < 0 then (d, Nat.pow 10 (-e).toNat) else (d * Nat.pow 10 e.toNat, 1)

/-- The exponent of the leading decimal digit of the positive fraction `num / den`, at least
    `-fuel`. -/
def leading (num den : Nat) : Nat → Int
  | 0 => 0
  | fuel + 1 =>
    if den ≤ num then ((Nat.toDigits 10 (num / den)).length : Int) - 1
    else leading (num * 10) den fuel - 1

/-- The best decimal of the interval that is a multiple of `10 ^ e`, if there is one. -/
def onGrid? (i : Interval) (e : Int) : Option Scientific :=
  let (num, den) := fraction 1 e
  let d := i.mid * den / (i.den * num)
  let candidate (d : Nat) : Option Scientific :=
    if i.holds (d * num) den then some ⟨d, e⟩ else none
  match candidate d, candidate (d + 1) with
  | some a, some b =>
    let left := i.distance (d * num) den
    let right := i.distance ((d + 1) * num) den
    if left < right || left == right && d % 2 == 0 then some a else some b
  | some a, none => some a
  | none, b => b

def trim : Nat → Scientific → Scientific
  | 0, x => x
  | fuel + 1, x =>
    if x.digits % 10 == 0 && x.digits != 0 then trim fuel ⟨x.digits / 10, x.exponent + 1⟩ else x

/-- The shortest decimal that reads back as a positive double. -/
def digits (x : Binary64) : Scientific :=
  let i := Interval.of x
  let top := leading i.mid i.den 400
  -- Seventeen digits always suffice.
  match (List.range 17).findSome? fun (n : Nat) => onGrid? i (top - n) with
  | some s => trim 20 s
  | none => ⟨x.mantissa, 0⟩

end Shortest

/-- How a double is written: positionally while its leading digit stands for `10 ^ low` to
    `10 ^ high`, and with an exponent otherwise. -/
structure Layout where
  low : Int
  high : Int

def zeros (n : Nat) : String := String.ofList (List.replicate n '0')

/-- Digits with the point after the digit for `10 ^ 0`, at least one digit on each side. -/
def positional (ds : List Char) (lead : Int) : String :=
  if lead < 0 then "0." ++ zeros (-lead - 1).toNat ++ String.ofList ds
  else
    let whole := lead.toNat + 1
    if ds.length ≤ whole then String.ofList ds ++ zeros (whole - ds.length) ++ ".0"
    else String.ofList (ds.take whole) ++ "." ++ String.ofList (ds.drop whole)

/-- Digits with the point after the first one, and an exponent with its sign. -/
def exponential (ds : List Char) (lead : Int) : String :=
  let mantissa := match ds with
    | [] => ""
    | [d] => String.ofList [d]
    | d :: rest => String.ofList (d :: '.' :: rest)
  let sign := if lead < 0 then "-" else "+"
  mantissa ++ "e" ++ sign ++ String.ofList (Nat.toDigits 10 lead.natAbs)

/-- A double in a layout; zero is `0.0` with its sign. -/
def Layout.write (layout : Layout) (x : Binary64) : String :=
  let sign := if x.negative then "-" else ""
  if x.mantissa == 0 then sign ++ "0.0"
  else
    let s := Shortest.digits x
    let ds := Nat.toDigits 10 s.digits
    let lead := s.exponent + (ds.length : Int) - 1
    sign ++ (if layout.low ≤ lead && lead ≤ layout.high then positional ds lead
      else exponential ds lead)

end SchemaBeans.Decimal
