/-! Double-precision numbers as exact multiples of powers of two.

A finite double is a sign and `mantissa · 2 ^ exponent` with a mantissa below `2 ^ 53`. A decimal is
rounded to the nearest double, a tie going to the even mantissa; a decimal beyond the largest double
has none. -/

namespace SchemaBeans.Decimal

/-- A finite double: `(-1)^negative · mantissa · 2 ^ exponent`. -/
structure Binary64 where
  negative : Bool
  mantissa : Nat
  exponent : Int
deriving DecidableEq, Repr, Inhabited

namespace Binary64

/-- The least exponent: subnormal numbers are multiples of `2 ^ -1074`. -/
def minExponent : Int := -1074

def maxExponent : Int := 971

def zero (negative : Bool) : Binary64 := ⟨negative, 0, minExponent⟩

/-- The whole number nearest to `num / den`, a tie going to the even one. -/
def roundDiv (num den : Nat) : Nat :=
  let q := num / den
  let r := num % den
  if 2 * r < den then q
  else if den < 2 * r then q + 1
  else if q % 2 == 0 then q else q + 1

/-- `num / den · 2 ^ -e` as a fraction. -/
def scale (num den : Nat) (e : Int) : Nat × Nat :=
  if e < 0 then (num * Nat.pow 2 (-e).toNat, den) else (num, den * Nat.pow 2 e.toNat)

/-- The exponent of the leading binary digit of the positive fraction `num / den`. -/
def leading (num den : Nat) : Int :=
  let e : Int := num.log2 - den.log2
  let (n, d) := scale num den e
  if d ≤ n then e else e - 1

/-- The double nearest to a positive fraction; none beyond the largest one. -/
def ofFraction? (negative : Bool) (num den : Nat) : Option Binary64 :=
  let e := max (leading num den - 52) minExponent
  let (n, d) := scale num den e
  let m := roundDiv n d
  let (m, e) := if m < Nat.pow 2 53 then (m, e) else (m / 2, e + 1)
  if maxExponent < e then none else some ⟨negative, m, e⟩

/-- The double nearest to `digits · 10 ^ exponent`; none beyond the largest one. Exponents far
    outside the range of doubles are settled by size alone. -/
def ofDecimal? (negative : Bool) (digits : Nat) (exponent : Int) : Option Binary64 :=
  let magnitude : Int := (Nat.toDigits 10 digits).length + exponent
  if digits == 0 || magnitude < -330 then some (zero negative)
  else if 320 < magnitude then none
  else if exponent < 0 then ofFraction? negative digits (Nat.pow 10 (-exponent).toNat)
  else ofFraction? negative (digits * Nat.pow 10 exponent.toNat) 1

end Binary64

end SchemaBeans.Decimal
