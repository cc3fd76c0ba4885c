import SchemaBeans.Decimal.Shortest
import SchemaBeans.Json.Basic
import SchemaBeans.Text.Brace

/-! Compact JSON.

No blanks between tokens. In strings the quote, the backslash and the characters below U+0020 are
escaped, the latter by a letter where there is one and by four lower-case hexadecimal digits
otherwise; every other character stands for itself. -/

namespace SchemaBeans.Json

/-- The lower-case hexadecimal digits of a number, at least four. -/
def hex4 (n : Nat) : String :=
  let ds := Nat.toDigits 16 n
  String.ofList (List.replicate (4 - ds.length) '0' ++ ds)

def escapeChar (c : Char) : String :=
  if c == '"' then "\\\""
  else if c == '\\' then "\\\\"
  else if c == '\n' then "\\n"
  else if c == '\r' then "\\r"
  else if c == '\t' then "\\t"
  else if c == '\x08' then "\\b"
  else if c == '\x0c' then "\\f"
  else if c.toNat < 0x20 then "\\u" ++ hex4 c.toNat
  else String.singleton c

def quote (s : String) : String :=
  "\"" ++ String.join (s.toList.map escapeChar) ++ "\""

/-- Doubles from `0.00001` up to sixteen digits before the point are written positionally, others
    with an exponent. -/
def floatLayout : Decimal.Layout := ⟨-5, 15⟩

def renderNumber : Number → String
  | .integer i => if i < 0 then "-" ++ String.ofList (Nat.toDigits 10 i.natAbs)
    else String.ofList (Nat.toDigits 10 i.natAbs)
  | .float x => floatLayout.write x

mutual

def render : Json → String
  | .null => "null"
  | .bool true => "true"
  | .bool false => "false"
  | .number n => renderNumber n
  | .string s => quote s
  | .array items => "[" ++ String.intercalate "," (renderItems items) ++ "]"
  | .object fields => Text.openBrace ++ String.intercalate "," (renderFields fields) ++ Text.closeBrace

def renderItems : List Json → List String
  | [] => []
  | v :: rest => render v :: renderItems rest

def renderFields : List (String × Json) → List String
  | [] => []
  | (key, v) :: rest => (quote key ++ ":" ++ render v) :: renderFields rest

end

end SchemaBeans.Json
