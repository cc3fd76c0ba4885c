import SchemaBeans.Uri.Basic

/-! Numbered names.

Where a name is in use already, it is numbered: the name itself counts as the first candidate, then come
the name with `2`, with `3` and so on. The first candidate that is free is taken. -/

namespace SchemaBeans.Numbering

/-- The candidate with a number; the first is the name itself. -/
def candidate (name separator : String) (number : Nat) : String :=
  if number = 1 then name else name ++ separator ++ decimal number

/-- The first number from `number` on that is free, after passing over at most `fuel` numbers. -/
def firstFree (isFree : Nat → Bool) : Nat → Nat → Nat
  | 0, number => number
  | fuel + 1, number => if isFree number then number else firstFree isFree fuel (number + 1)

/-- The first candidate for a name that is not in use, where at most `used` candidates are. -/
def pick (isUsed : String → Bool) (used : Nat) (name separator : String) : String :=
  candidate name separator (firstFree (fun n => !isUsed (candidate name separator n)) used 1)

end SchemaBeans.Numbering
