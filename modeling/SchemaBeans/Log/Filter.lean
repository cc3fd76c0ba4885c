import SchemaBeans.Log
import SchemaBeans.Log.Pattern
import SchemaBeans.Text.Alphanumeric
import SchemaBeans.Text.Blank

/-! Which messages are shown.

A filter is a list of rules. A rule sets a limit for the messages of sources whose names start with a
given text, or for those of all sources, and the rule with the longest text decides about a message.
Rules are written with commas between them: `warn`, `name=info`, or `name` alone for all messages of
a source. A rule with brackets is about messages inside of a span or about messages with a field;
messages here have the field `message` and are in no span. -/

namespace SchemaBeans

/-- The least important level that is shown, if any message is. -/
abbrev LogLimit := Option LogLevel

/-- A limit for the messages of some sources. -/
structure LogRule where
  /-- How the names of the sources start; none for all sources. -/
  source : Option String
  /-- The field that a message must have, if any. -/
  field : Option String
  limit : LogLimit
deriving DecidableEq, Repr

/-- The rules on what is shown. -/
abbrev LogFilter := List LogRule

namespace LogRule

def covers (rule : LogRule) (source : LogSource) : Bool :=
  rule.source.all (fun start => start.toList.isPrefixOf source.text.toList) &&
    rule.field.all (· == "message")

/-- How specific a rule is: by its source, then by whether it asks for a field. -/
def weight (rule : LogRule) : Nat :=
  2 * (rule.source.map (·.length + 1)).getD 0 + if rule.field.isSome then 1 else 0

end LogRule

namespace LogFilter

def upTo (limit : LogLevel) : LogFilter := [⟨none, none, some limit⟩]

/-- The more specific of two rules, of equally specific ones the later. -/
def sharper (best : Option LogRule) (rule : LogRule) : Option LogRule :=
  match best with
  | some old => if old.weight ≤ rule.weight then some rule else some old
  | none => some rule

/-- The limit for the messages of a source; none is shown without a rule. -/
def limitFor (filter : LogFilter) (source : LogSource) : LogLimit :=
  ((filter.filter (·.covers source)).foldl sharper none).bind LogRule.limit

def shows (filter : LogFilter) (entry : LogEntry) : Bool :=
  (filter.limitFor entry.source).any (entry.level.rank ≤ ·.rank)

end LogFilter

/-! ### Reading -/

namespace LogRule

/-- The limits in order; each is named by its word and by its index. -/
def limitWords : List (String × LogLimit) :=
  [("off", none), ("error", some .error), ("warn", some .warn), ("info", some .info),
    ("debug", some .debug), ("trace", some .trace)]

def decimal? (cs : List Char) : Option Nat :=
  let digits := match cs with
    | '+' :: rest => rest
    | _ => cs
  if !digits.isEmpty && digits.all Char.isDigit then
    some (digits.foldl (fun n c => n * 10 + (c.toNat - 0x30)) 0)
  else none

/-- The limit that a word in upper or lower case or a number names. -/
def limitOfWord? (word : List Char) : Option LogLimit :=
  match decimal? word with
  | some n => (limitWords[n]?).map Prod.snd
  | none => limitWords.lookup (String.ofList (word.map Char.toLower))

/-- Whether a text after its sign is a number, with a fraction and an exponent if need be, or one of the
    words for what is no finite number. -/
def isUnsignedNumber (cs : List Char) : Bool :=
  let whole := cs.takeWhile Char.isDigit
  ["inf", "infinity", "nan"].contains (String.ofList (cs.map Char.toLower)) ||
    match cs.dropWhile Char.isDigit with
    | '.' :: rest =>
      !(whole ++ rest.takeWhile Char.isDigit).isEmpty && isExponent (rest.dropWhile Char.isDigit)
    | rest => !whole.isEmpty && isExponent rest
where
  isExponent : List Char → Bool
    | [] => true
    | e :: rest =>
      let digits := match rest with
        | '+' :: more => more
        | '-' :: more => more
        | _ => rest
      (e == 'e' || e == 'E') && !digits.isEmpty && digits.all Char.isDigit

/-- Whether a text can be the value of a field in a rule: a number or a pattern. -/
def isFieldValue (cs : List Char) : Bool :=
  Pattern.isPattern cs || cs.head? == some '+' && isUnsignedNumber (cs.drop 1)

/-- What a rule is being read for, with the place where its text starts. -/
inductive Part where
  | start
  | source (first : Nat)
  | span (first : Nat)
  | field (first : Nat)
  | fieldEnd
  | bracketEnd
  | limit (first : Nat)
deriving DecidableEq, Repr

/-- A rule being read. -/
structure Reader where
  part : Part
  source : Option String
  field : Option String
  /-- Whether the rule is about a span or about the value of a field, which no message here has. -/
  elsewhere : Bool
deriving Repr

def startsRule (c : Char) : Bool :=
  Text.isAlphanumeric c || c == '-' || c == ':' || c == '_' || c == '['

namespace Reader

/-- Reads the character at a place. Texts between two places are taken from `text`. -/
def step? (text : List Char) (r : Reader) (place : Nat) (c : Char) : Option Reader :=
  let since (first : Nat) : List Char := (text.take place).drop first
  match r.part with
  | .start =>
    if !startsRule c then none
    else some { r with part := if c == '[' then .span (place + 1) else .source place }
  | .source first =>
    if c == '=' then
      some { r with part := .limit (place + 1), source := some (String.ofList (since first)) }
    else if c == '[' then
      some { r with part := .span (place + 1), source := some (String.ofList (since first)) }
    else some r
  | .span first =>
    if c == ']' then some { r with part := .bracketEnd, elsewhere := true }
    else if c == '{' then
      some { r with part := .field (place + 1), elsewhere := !(since first).isEmpty }
    else some r
  | .field first =>
    if c != '}' then some r
    else match (since first).splitOnP (· == '=') with
      | [] | [[]] => none
      | [name] => some { r with part := .fieldEnd, field := some (String.ofList name) }
      | name :: value :: _ =>
        if isFieldValue value then
          some { r with part := .fieldEnd, field := some (String.ofList name), elsewhere := true }
        else none
  | .fieldEnd => if c == ']' then some { r with part := .bracketEnd } else none
  | .bracketEnd => if c == '=' then some { r with part := .limit (place + 1) } else none
  | .limit _ => some r

def run? (text : List Char) (r : Reader) (place : Nat) : List Char → Option Reader
  | [] => some r
  | c :: rest => match r.step? text place c with
    | some r => r.run? text (place + 1) rest
    | none => none

/-- The rule that is read at the end of a text, or none where it is about no message here. -/
def finish? (text : List Char) (r : Reader) : Option (Option LogRule) :=
  match r.part with
  -- A word alone may be a limit.
  | .source first => match limitOfWord? (text.drop first) with
    | some limit => some (some ⟨none, none, limit⟩)
    | none => some (some ⟨some (String.ofList (text.drop first)), none, some .trace⟩)
  | .limit first => match text.drop first with
    -- A rule without a limit is for all messages.
    | [] => some (rule (some .trace))
    | word => (limitOfWord? word).map rule
  | .bracketEnd => some (rule (some .trace))
  | _ => none
where
  rule (limit : LogLimit) : Option LogRule :=
    if r.elsewhere then none else some ⟨r.source, r.field, limit⟩

end Reader

/-- A rule as it stands between commas, or none where it is about no message here; a text that is no rule
    is refused. -/
def parse? (text : String) : Option (Option LogRule) :=
  -- The places are those in the text without blanks around it, but the parts are taken from the whole text.
  match Reader.run? text.toList ⟨.start, none, none, false⟩ 0
      (Text.trimEnds Text.isBlank text.toList) with
  | some r => r.finish? text.toList
  | none => none

end LogRule

/-- The rules of a text. Only errors are shown where there is no rule, and a text with anything else than
    rules is refused. -/
def LogFilter.parse? (text : String) : Option LogFilter :=
  match (Text.pieces ',' text).filter (· ≠ "") with
  | [] => some (LogFilter.upTo .error)
  | rules => (rules.mapM LogRule.parse?).map (·.filterMap id)

end SchemaBeans
