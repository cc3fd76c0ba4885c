import SchemaBeans.Json.Text

/-! Records in JSON text.

A record has fields with fixed names. It is written as an object, where members with other names are
ignored and none of its own may be repeated, or as an array of its fields in order, where the last
ones may be left out. -/

namespace SchemaBeans.JsonText

/-- The members of an object whose keys are names of the record, if every key has a value. -/
def knownMembers? (names : List String) :
    List (Option String × JsonText) → Option (List (String × JsonText))
  | [] => some []
  | (none, _) :: _ => none
  | (some key, v) :: rest =>
    if key ∈ names then (knownMembers? names rest).map ((key, v) :: ·) else knownMembers? names rest

/-- The texts of a record's fields, in the order of their names; `none` for a field left out. -/
def fields? (names : List String) : JsonText → Option (List (Option JsonText))
  | .object members => match knownMembers? names members with
    | some known =>
      if (known.map (·.1)).Nodup then some (names.map (Table.get? known)) else none
    | none => none
  | .array items =>
    if items.length ≤ names.length then
      some (items.map some ++ List.replicate (names.length - items.length) none)
    else none
  | _ => none

def string? : JsonText → Option String
  | .string s => s
  | _ => none

def optionalString? : JsonText → Option (Option String)
  | .null => some none
  | .string (some s) => some (some s)
  | _ => none

end SchemaBeans.JsonText
