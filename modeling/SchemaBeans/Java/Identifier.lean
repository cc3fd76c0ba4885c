import SchemaBeans.Java.Keyword
import SchemaBeans.Text.Alphanumeric
import SchemaBeans.Text.Split
import SchemaBeans.Text.Uppercase

/-! Java names made from arbitrary text.

Text is cut into words at every character that is neither a letter nor a number. Fields run the words
together with capitals, accessors put a word in front of the field, and constants join the words in
upper case with underscores. A name that would start with an ASCII digit gets an underscore first. -/

namespace SchemaBeans.Java

/-- The words of a text, empty ones included. -/
def words (cs : List Char) : List (List Char) :=
  cs.splitOnP (!Text.isAlphanumeric ·)

def startsWithDigit (cs : List Char) : Bool :=
  (cs.head?.map Char.isDigit).getD false

/-- Words run together, each with a capital. -/
def pascalChars (cs : List Char) : List Char :=
  ((words cs).map Text.capitalize).flatten

@[inherit_doc pascalChars]
def pascal (s : String) : String :=
  String.ofList (pascalChars s.toList)

def capitalized (s : String) : String :=
  String.ofList (Text.capitalize s.toList)

/-- Words run together, each but the first with a capital. -/
def camelChars (cs : List Char) : List Char :=
  match (words cs).filter (!·.isEmpty) with
  | [] => []
  | first :: rest => first ++ (rest.map Text.capitalize).flatten

def guardDigit (cs : List Char) : List Char :=
  if startsWithDigit cs then '_' :: cs else cs

/-- The field for a property: words run together; an underscore alone if there are none, and one at the
    end of a keyword. -/
def fieldName (property : String) : String :=
  let name := String.ofList (guardDigit (camelChars property.toList))
  if name = "" then "_"
  else if keywords.contains name then name ++ "_"
  else name

/-- A word and the field with a capital, without the underscores it starts with. -/
def accessorName (word field : String) : String :=
  word ++ String.ofList (Text.capitalize (field.toList.dropWhile (· == '_')))

/-- A letter or number in upper case, where that is one character, or its first; an underscore for
    anything else. -/
def constantChar (c : Char) : Char :=
  if Text.isAlphanumeric c then (Text.uppercase c).headD c else '_'

/-- The constant for a value: its words in upper case with underscores between them. -/
def constantName (value : String) : String :=
  let parts := ((value.toList.map constantChar).splitOnP (· == '_')).filter (!·.isEmpty)
  let name := List.intercalate ['_'] parts
  String.ofList (if name.isEmpty then ['_'] else guardDigit name)

end SchemaBeans.Java
