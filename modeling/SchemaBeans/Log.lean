import SchemaBeans.Text.Brace

/-! Messages about the progress of a run. -/

namespace SchemaBeans

/-- How important a message is, the most important first. -/
inductive LogLevel where
  | error
  | warn
  | info
  | debug
  | trace
deriving DecidableEq, Repr

namespace LogLevel

def text : LogLevel → String
  | .error => "ERROR"
  | .warn => "WARN"
  | .info => "INFO"
  | .debug => "DEBUG"
  | .trace => "TRACE"

/-- The number of more important levels. -/
def rank : LogLevel → Nat
  | .error => 0
  | .warn => 1
  | .info => 2
  | .debug => 3
  | .trace => 4

end LogLevel

/-- What a message is from. -/
inductive LogSource where
  | command
  | session
  | catalog
  | objectGenerator
  | arrayGenerator
deriving DecidableEq, Repr

def LogSource.text : LogSource → String
  | .command => "jsonschema_bean_gen"
  | .session => "jsonschema_bean_gen::engine"
  | .catalog => "jsonschema_bean_gen::loader"
  | .objectGenerator => "jsonschema_bean_gen::generator::object"
  | .arrayGenerator => "jsonschema_bean_gen::generator::array"

/-- A message, its level and where it is from. -/
structure LogEntry where
  source : LogSource
  level : LogLevel
  message : String
deriving DecidableEq, Repr

namespace LogEntry

/-- A character as it is shown. The controls that a terminal would act on are written out. -/
def shownChar (c : Char) : String :=
  match c with
  | '\x07' => "\\x07"
  | '\x08' => "\\x08"
  | '\x0c' => "\\x0c"
  | '\x1b' => "\\x1b"
  | '\x7f' => "\\x7f"
  | c =>
    if 0x80 ≤ c.toNat && c.toNat ≤ 0x9F then
      "\\u" ++ Text.openBrace ++ String.ofList (Nat.toDigits 16 c.toNat) ++ Text.closeBrace
    else String.singleton c

def text (entry : LogEntry) : String :=
  entry.level.text ++ " " ++ String.join (entry.message.toList.map shownChar)

end LogEntry

end SchemaBeans
