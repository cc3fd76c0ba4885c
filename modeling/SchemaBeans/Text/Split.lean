/-! Cutting text at separators.

Text is cut into the pieces between separator characters; two separators in a row leave an empty
piece between them, and text without a separator is one piece. -/

namespace SchemaBeans.Text

/-- The pieces of `s` between occurrences of `sep`, empty pieces included. -/
def pieces (sep : Char) (s : String) : List String :=
  (s.toList.splitOnP (· == sep)).map String.ofList

/-- The text before and after the first `sep`, if there is one. -/
def splitFirst? (sep : Char) (s : String) : Option (String × String) :=
  let cs := s.toList
  match cs.dropWhile (· != sep) with
  | [] => none
  | _ :: rest => some (String.ofList (cs.takeWhile (· != sep)), String.ofList rest)

/-- The text before and after the last `sep`, if there is one. -/
def splitLast? (sep : Char) (s : String) : Option (String × String) :=
  let cs := s.toList.reverse
  match cs.dropWhile (· != sep) with
  | [] => none
  | _ :: front =>
    some (String.ofList front.reverse, String.ofList (cs.takeWhile (· != sep)).reverse)

/-- Characters removed from both ends of `cs` while they satisfy `p`. -/
def trimEnds (p : Char → Bool) (cs : List Char) : List Char :=
  ((cs.dropWhile p).reverse.dropWhile p).reverse

def endsWithChar (c : Char) (s : String) : Bool :=
  s.toList.getLast? == some c

end SchemaBeans.Text
