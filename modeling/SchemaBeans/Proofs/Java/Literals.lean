import SchemaBeans.Java.Literal
import SchemaBeans.Json.Text

/-! How a string literal is read.

A compiler goes over a source twice. The first pass replaces escaped UTF-16 units, which may stand anywhere in a
source; a backslash starts such an escape only after an even number of backslashes in a row. The second pass finds the
literal in the units that are left and interprets the escapes in it. What is written as the literal of a text is read
as that text. -/

namespace SchemaBeans.Java

/-- The UTF-16 units of a character. -/
def units (c : Char) : List Nat :=
  if c.toNat < 0x10000 then [c.toNat]
  else [0xD800 + (c.toNat - 0x10000) / 0x400, 0xDC00 + (c.toNat - 0x10000) % 0x400]

theorem eq_of_mem_units {c x : Char} (hx : x.toNat < 0x80) (h : x.toNat ∈ units c) : c = x := by
  unfold units at h
  split at h
  · exact Char.toNat_inj.mp (List.mem_singleton.mp h).symm
  · simp only [List.mem_cons, List.not_mem_nil, or_false] at h
    omega

/-! ### The first pass -/

/-- Where the first pass is: after some backslashes in a row, or in an escape, with as many of its digits and their
    value. -/
inductive FirstPass where
  | text (backslashes : Nat)
  | escape (digits value : Nat)

/-- The units of a source, each escape replaced by the unit with its four digits. The `u` of an escape may be
    repeated. -/
def replaceEscapes : FirstPass → List Char → Option (List Nat)
  | .text _, [] => some []
  | .escape _ _, [] => none
  | .text backslashes, c :: rest =>
    if c = '\\' then
      if backslashes % 2 = 0 ∧ rest.head? = some 'u' then replaceEscapes (.escape 0 0) rest
      else (replaceEscapes (.text (backslashes + 1)) rest).map (units c ++ ·)
    else (replaceEscapes (.text 0) rest).map (units c ++ ·)
  | .escape digits value, c :: rest =>
    if digits = 0 ∧ c = 'u' then replaceEscapes (.escape 0 0) rest
    else match JsonText.hexValue? c with
      | none => none
      | some d =>
        if digits = 3 then (replaceEscapes (.text 0) rest).map ((value * 16 + d) :: ·)
        else replaceEscapes (.escape (digits + 1) (value * 16 + d)) rest

/-! ### The second pass -/

def isLineTerminator (u : Nat) : Bool := u == '\n'.toNat || u == '\r'.toNat

/-- The unit that a backslash and one unit stand for, octal digits aside. -/
def escapedUnit? (u : Nat) : Option Nat :=
  [('b', 0x08), ('s', 0x20), ('t', 0x09), ('n', 0x0A), ('f', 0x0C), ('r', 0x0D), ('"', 0x22), ('\'', 0x27),
    ('\\', 0x5C)].map (fun e => (e.1.toNat, e.2)) |>.lookup u

def octalValue? (u : Nat) : Option Nat :=
  if '0'.toNat ≤ u ∧ u ≤ '7'.toNat then some (u - '0'.toNat) else none

/-- Where the second pass is: between the characters of a literal, after a backslash, or before another digit of an
    octal escape, with the value so far and whether there may be one digit more. -/
inductive SecondPass where
  | text
  | escape
  | octal (value : Nat) (more : Bool)

/-- The units that a literal stands for, from behind its opening quote to its closing quote, where the source ends. An
    octal escape takes as many digits as it can, which are three if the first is at most `3` and two otherwise. -/
def interpret : SecondPass → List Nat → Option (List Nat)
  | _, [] => none
  | .text, u :: rest =>
    if u = '"'.toNat then if rest.isEmpty then some [] else none
    else if isLineTerminator u then none
    else if u = '\\'.toNat then interpret .escape rest
    else (interpret .text rest).map (u :: ·)
  | .escape, u :: rest =>
    match escapedUnit? u, octalValue? u with
    | some v, _ => (interpret .text rest).map (v :: ·)
    | none, some d =>
      if (rest.head?.bind octalValue?).isSome then interpret (.octal d (d ≤ 3)) rest
      else (interpret .text rest).map (d :: ·)
    | none, none => none
  | .octal value more, u :: rest =>
    match octalValue? u with
    | none => none
    | some d =>
      if more && (rest.head?.bind octalValue?).isSome then interpret (.octal (value * 8 + d) false) rest
      else (interpret .text rest).map ((value * 8 + d) :: ·)

/-- The units that stand for a literal which is all of a source. -/
def literalUnits? : List Nat → Option (List Nat)
  | [] => none
  | u :: rest => if u = '"'.toNat then interpret .text rest else none

/-- The text that a source stands for if it is one string literal. -/
def readLiteral? (source : String) : Option String := do
  let source ← replaceEscapes (.text 0) source.toList
  let value ← literalUnits? source
  JsonText.assemble [] none (value.map .unit)

/-! ### Characters in a literal -/

theorem isControl_lt {c : Char} (h : isControl c = true) : c.toNat < 0xA0 := by
  simp only [isControl, Bool.or_eq_true, Bool.and_eq_true, decide_eq_true_eq] at h
  omega

/-- What the first pass leaves of a character in a literal. -/
def spelled (c : Char) : List Nat :=
  if c ∈ ['"', '\\', '\n', '\r', '\t'] then (literalChar c).flatMap units else units c

theorem literalChar_named {c : Char} (h : c ∈ ['"', '\\', '\n', '\r', '\t']) :
    ∃ x, literalChar c = ['\\', x] ∧ x ≠ 'u' ∧ units x = [x.toNat] ∧ spelled c = ['\\'.toNat, x.toNat] ∧
      isLineTerminator x.toNat = false ∧ escapedUnit? x.toNat = some c.toNat ∧ units c = [c.toNat] := by
  simp only [List.mem_cons, List.not_mem_nil, or_false] at h
  rcases h with rfl | rfl | rfl | rfl | rfl <;> exact ⟨_, rfl, by decide, rfl, rfl, rfl, rfl, rfl⟩

/-- The units of all other characters mean nothing else in a literal. -/
theorem units_plain {c : Char} (h : c ∉ ['"', '\\', '\n', '\r', '\t']) {u : Nat} (hu : u ∈ units c) :
    u ≠ '"'.toNat ∧ u ≠ '\\'.toNat ∧ isLineTerminator u = false := by
  have hne : ∀ x ∈ ['"', '\\', '\n', '\r', '\t'], u ≠ x.toNat := by
    rintro x hx rfl
    have hascii : ['"', '\\', '\n', '\r', '\t'].all (·.toNat < 0x80) = true := by decide
    exact h (eq_of_mem_units (decide_eq_true_iff.mp (List.all_eq_true.mp hascii x hx)) hu ▸ hx)
  have hfeed : u ≠ '\n'.toNat := hne '\n' (by decide)
  have hreturn : u ≠ '\r'.toNat := hne '\r' (by decide)
  refine ⟨hne '"' (by decide), hne '\\' (by decide), ?_⟩
  simp only [isLineTerminator, beq_false_of_ne hfeed, beq_false_of_ne hreturn, Bool.or_self]

theorem hexValue?_digitChar : ∀ d < 16, JsonText.hexValue? (Nat.digitChar d) = some d := by decide

theorem hex4_eq {n : Nat} (hn : n < 0xA0) :
    hex4 n = ['0', '0', Nat.digitChar (n / 16), Nat.digitChar (n % 16)] := by
  by_cases hsmall : n < 16
  · have hdigit : n / 16 = 0 ∧ n % 16 = n := by omega
    rw [hex4, Nat.toDigits_of_lt_base hsmall, hdigit.1, hdigit.2]
    rfl
  · have hlow : n / 16 < 16 := by omega
    rw [hex4, Nat.toDigits_of_base_le (by decide) (by omega), Nat.toDigits_of_lt_base hlow]
    rfl

theorem replaceEscapes_hex4 {n : Nat} (hn : n < 0xA0) (rest : List Char) :
    replaceEscapes (.escape 0 0) (hex4 n ++ rest) = (replaceEscapes (.text 0) rest).map (n :: ·) := by
  have hzero : JsonText.hexValue? '0' = some 0 := by decide
  have hhigh := hexValue?_digitChar (n / 16) (by omega)
  have hlow := hexValue?_digitChar (n % 16) (by omega)
  have hvalue : n / 16 * 16 + n % 16 = n := by omega
  simp [hex4_eq hn, replaceEscapes, hzero, hhigh, hlow, hvalue]

/-- Every character leaves the first pass after an even number of backslashes. -/
theorem replaceEscapes_literalChar {n : Nat} (hn : n % 2 = 0) (c : Char) (rest : List Char) : ∃ m, m % 2 = 0 ∧
    replaceEscapes (.text n) (literalChar c ++ rest) = (replaceEscapes (.text m) rest).map (spelled c ++ ·) := by
  by_cases hnamed : c ∈ ['"', '\\', '\n', '\r', '\t']
  · obtain ⟨x, hliteral, hmark, hunits, hspelled, -⟩ := literalChar_named hnamed
    have hbackslash : units '\\' = ['\\'.toNat] := rfl
    by_cases hx : x = '\\'
    · -- The second backslash follows an odd number of them.
      have hodd : (n + 1) % 2 ≠ 0 := by omega
      refine ⟨n + 2, by omega, ?_⟩
      simp [hliteral, hspelled, replaceEscapes, hx, hodd, hbackslash, Function.comp_def]
    · refine ⟨0, rfl, ?_⟩
      simp [hliteral, hspelled, replaceEscapes, hx, hmark, hunits, hbackslash, Function.comp_def]
  · have hspelled : spelled c = units c := if_neg hnamed
    simp only [List.mem_cons, List.not_mem_nil, or_false, not_or] at hnamed
    obtain ⟨hquote, hbackslash, hfeed, hreturn, htab⟩ := hnamed
    refine ⟨0, rfl, ?_⟩
    simp only [hspelled, literalChar, hquote, hbackslash, hfeed, hreturn, htab, if_false]
    split
    · rename_i hcontrol
      -- The code of a control character has four digits, and it is the only unit.
      have hcode := isControl_lt hcontrol
      have hunits : units c = [c.toNat] := if_pos (by omega)
      simp [replaceEscapes, hn, replaceEscapes_hex4 hcode, hunits]
    · simp [replaceEscapes, hbackslash]

theorem interpret_plain {us : List Nat} (rest : List Nat)
    (h : ∀ u ∈ us, u ≠ '"'.toNat ∧ u ≠ '\\'.toNat ∧ isLineTerminator u = false) :
    interpret .text (us ++ rest) = (interpret .text rest).map (us ++ ·) := by
  induction us with
  | nil => simp
  | cons u us ih =>
    obtain ⟨hquote, hbackslash, hline⟩ := h u List.mem_cons_self
    rw [List.cons_append, interpret, if_neg hquote, hline, if_neg Bool.false_ne_true, if_neg hbackslash,
      ih fun v hv => h v (List.mem_cons_of_mem u hv), Option.map_map]
    rfl

theorem interpret_spelled (c : Char) (rest : List Nat) :
    interpret .text (spelled c ++ rest) = (interpret .text rest).map (units c ++ ·) := by
  by_cases hnamed : c ∈ ['"', '\\', '\n', '\r', '\t']
  · obtain ⟨x, -, -, -, hspelled, -, hvalue, hunits⟩ := literalChar_named hnamed
    simp [hspelled, hunits, interpret, hvalue, isLineTerminator]
  · rw [spelled, if_neg hnamed]
    exact interpret_plain rest fun u hu => units_plain hnamed hu

theorem not_isLineTerminator_of_mem_spelled {c : Char} {u : Nat} (h : u ∈ spelled c) : isLineTerminator u = false := by
  by_cases hnamed : c ∈ ['"', '\\', '\n', '\r', '\t']
  · obtain ⟨x, -, -, -, hspelled, hline, -⟩ := literalChar_named hnamed
    rw [hspelled] at h
    simp only [List.mem_cons, List.not_mem_nil, or_false] at h
    rcases h with rfl | rfl
    · rfl
    · exact hline
  · rw [spelled, if_neg hnamed] at h
    exact (units_plain hnamed h).2.2

/-- The units of a text are put together again. -/
theorem assemble_units (done cs : List Char) :
    JsonText.assemble done none ((cs.flatMap units).map .unit) = some (String.ofList (done.reverse ++ cs)) := by
  induction cs generalizing done with
  | nil => simp [JsonText.assemble]
  | cons c cs ih =>
    have hvalid : c.toNat < 0xD800 ∨ 0xDFFF < c.toNat ∧ c.toNat < 0x110000 := c.valid
    have hnext := ih (c :: done)
    rw [List.reverse_cons, List.append_assoc, List.singleton_append] at hnext
    rw [List.flatMap_cons, List.map_append, ← hnext, units]
    split
    · rename_i hsmall
      -- A character of the basic plane is no surrogate.
      have hlead : JsonText.isLeadUnit c.toNat = false := by
        simp only [JsonText.isLeadUnit, Bool.and_eq_false_iff, decide_eq_false_iff_not]
        omega
      have htrail : JsonText.isTrailUnit c.toNat = false := by
        simp only [JsonText.isTrailUnit, Bool.and_eq_false_iff, decide_eq_false_iff_not]
        omega
      simp [JsonText.assemble, hlead, htrail]
    · rename_i hlarge
      -- The two surrogates of a character beyond it give back its code.
      have hlead : JsonText.isLeadUnit (0xD800 + (c.toNat - 0x10000) / 0x400) = true := by
        simp only [JsonText.isLeadUnit, Bool.and_eq_true, decide_eq_true_eq]
        omega
      have htrail : JsonText.isTrailUnit (0xDC00 + (c.toNat - 0x10000) % 0x400) = true := by
        simp only [JsonText.isTrailUnit, Bool.and_eq_true, decide_eq_true_eq]
        omega
      have hcode : 0x10000 + (c.toNat - 0x10000) / 0x400 * 0x400 + (c.toNat - 0x10000) % 0x400 = c.toNat := by omega
      simp [JsonText.assemble, hlead, htrail, hcode]

/-! ### Literals -/

theorem replaceEscapes_literal (s : String) : replaceEscapes (.text 0) (literal s).toList =
    some ('"'.toNat :: (s.toList.flatMap spelled ++ ['"'.toNat])) := by
  have hbody : ∀ (cs : List Char) {n : Nat}, n % 2 = 0 →
      replaceEscapes (.text n) (cs.flatMap literalChar ++ ['"']) = some (cs.flatMap spelled ++ ['"'.toNat]) := by
    intro cs
    induction cs with
    | nil => exact fun _ => rfl
    | cons c cs ih =>
      intro n hn
      obtain ⟨m, hm, hc⟩ := replaceEscapes_literalChar hn c (cs.flatMap literalChar ++ ['"'])
      simp only [List.flatMap_cons, List.append_assoc, hc, ih hm, Option.map_some]
  have hquote : units '"' = ['"'.toNat] := rfl
  simp [literal, replaceEscapes, hbody s.toList, hquote]

/-- The second pass finds one literal, which stands for the units of the text. -/
theorem literalUnits?_spelled (cs : List Char) :
    literalUnits? ('"'.toNat :: (cs.flatMap spelled ++ ['"'.toNat])) = some (cs.flatMap units) := by
  rw [literalUnits?, if_pos rfl]
  induction cs with
  | nil => rfl
  | cons c cs ih => rw [List.flatMap_cons, List.append_assoc, interpret_spelled, ih, List.flatMap_cons, Option.map_some]

theorem readLiteral?_literal (s : String) : readLiteral? (literal s) = some s := by
  have hvalue := assemble_units [] s.toList
  rw [List.reverse_nil, List.nil_append, String.ofList_toList] at hvalue
  simp only [readLiteral?, replaceEscapes_literal, Option.bind_eq_bind, Option.bind_some, literalUnits?_spelled, hvalue]

/-- The literal of a text is one string literal: no line ends in what the first pass leaves of it, the second pass takes
    all of that, and the text that it stands for is the one that was written. -/
theorem literal_read_back (s : String) : ∃ source, replaceEscapes (.text 0) (literal s).toList = some source ∧
    (∀ u ∈ source, isLineTerminator u = false) ∧ literalUnits? source = some (s.toList.flatMap units) ∧
    readLiteral? (literal s) = some s := by
  refine ⟨_, replaceEscapes_literal s, fun u hu => ?_, literalUnits?_spelled s.toList, readLiteral?_literal s⟩
  simp only [List.mem_cons, List.mem_append, List.mem_flatMap, List.not_mem_nil, or_false] at hu
  rcases hu with rfl | ⟨c, -, hu⟩ | rfl
  · rfl
  · exact not_isLineTerminator_of_mem_spelled hu
  · rfl

/-- The backslashes before the first `u` are two, those before the second one are three. -/
example : readLiteral? "\"\\\\u2122=\\\\\\u2122\"" = some "\\u2122=\\™" := by decide +kernel

end SchemaBeans.Java
