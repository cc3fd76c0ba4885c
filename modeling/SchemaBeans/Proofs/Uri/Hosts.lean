import SchemaBeans.Proofs.Text.Percent
import SchemaBeans.Uri.Host

/-! No host has a slash or a hash in it.

Addresses are written with digits, dots and colons. A domain is written with its own characters of ASCII,
among which slashes and hashes are refused, and with the letters, digits and hyphens of Punycode. -/

namespace SchemaBeans

/-- The characters that start a segment and the fragment. -/
def isDelimiter (c : Char) : Bool := c == '/' || c == '#'

theorem eq_of_isDelimiter {c : Char} (h : isDelimiter c = true) : c = '/' ∨ c = '#' := by
  simpa [isDelimiter] using h

variable {c : Char}

/-! ### Numbers -/

theorem delimiter_not_mem_toDigits (hc : isDelimiter c = true) {base : Nat} (hbase : 1 < base) (n : Nat) :
    c ∉ Nat.toDigits base n := by
  induction n using Nat.strongRecOn with
  | ind n ih =>
    rw [Nat.toDigits_eq_if hbase]
    split
    · rcases eq_of_isDelimiter hc with rfl | rfl <;> simp
    · have hlt : n / base < n := Nat.div_lt_self (by omega) hbase
      have hrest := ih _ hlt
      rcases eq_of_isDelimiter hc with rfl | rfl <;> simpa using hrest

theorem delimiter_not_mem_decimal (hc : isDelimiter c = true) (n : Nat) : c ∉ (decimal n).toList := by
  rw [decimal, String.toList_ofList]
  exact delimiter_not_mem_toDigits hc (by decide) n

namespace Text.Punycode

theorem digitOf_ne_delimiter (hc : isDelimiter c = true) (value : Nat) : digitOf value ≠ c := by
  intro h
  have hval := congrArg Char.toNat h
  rw [digitOf] at hval
  rcases eq_of_isDelimiter hc with rfl | rfl <;> split at hval <;> rw [Utf8.toNat_char] at hval <;>
    split at hval <;> simp at hval <;> omega

theorem delimiter_not_mem_writeNumber (hc : isDelimiter c = true) (bias place number : Nat) :
    c ∉ writeNumber bias place number := by
  fun_induction writeNumber bias place number with
  | case1 => simpa using (digitOf_ne_delimiter hc _).symm
  | case2 place number t _ ih => simpa using ⟨(digitOf_ne_delimiter hc _).symm, ih⟩

theorem delimiter_not_mem_encode (hc : isDelimiter c = true) {text : List Char} (h : c ∉ text) : c ∉ encode text := by
  have hfold : ∀ (others : List (Char × Nat)) (w : Writer), c ∉ w.written →
      c ∉ (others.foldl (fun w entry => w.add text entry.1 entry.2) w).written := by
    intro others
    induction others with
    | nil => exact fun w hw => hw
    | cons entry others ih =>
      intro w hw
      refine ih _ ?_
      simpa [Writer.add, hw] using delimiter_not_mem_writeNumber hc _ _ _
  have hhyphen : c ≠ '-' := by rcases eq_of_isDelimiter hc with rfl | rfl <;> decide
  refine hfold _ _ ?_
  split <;> simp [h, hhyphen]

end Text.Punycode

namespace Host

theorem not_mem_string_intercalate {sep : String} (hsep : c ∉ sep.toList) {parts : List String}
    (h : ∀ part ∈ parts, c ∉ part.toList) : c ∉ (String.intercalate sep parts).toList := by
  rw [String.toList_intercalate]
  exact Text.not_mem_intercalate hsep (by simpa using h)

theorem delimiter_not_mem_hexPieces (hc : isDelimiter c = true) (pieces : List Nat) : c ∉ (hexPieces pieces).toList := by
  refine not_mem_string_intercalate ?_ fun part hpart => ?_
  · rcases eq_of_isDelimiter hc with rfl | rfl <;> decide
  · obtain ⟨n, -, rfl⟩ := List.mem_map.mp hpart
    rw [String.toList_ofList]
    exact delimiter_not_mem_toDigits hc (by decide) n

theorem delimiter_not_mem_writeIpv6 (hc : isDelimiter c = true) (pieces : List Nat) : c ∉ (writeIpv6 pieces).toList := by
  have hcolon : c ≠ ':' := by rcases eq_of_isDelimiter hc with rfl | rfl <;> decide
  rw [writeIpv6]
  dsimp only
  split
  · exact delimiter_not_mem_hexPieces hc _
  · simp [delimiter_not_mem_hexPieces hc, hcolon]

theorem delimiter_not_mem_address (hc : isDelimiter c = true) (host : Host)
    (h : ∀ name, host = .domain name → c ∉ name.toList) : c ∉ host.text.toList := by
  cases host with
  | domain name => exact h name rfl
  | ipv4 a =>
    refine not_mem_string_intercalate ?_ ?_
    · rcases eq_of_isDelimiter hc with rfl | rfl <;> decide
    · simp [delimiter_not_mem_decimal hc]
  | ipv6 pieces =>
    have hbracket : c ≠ '[' ∧ c ≠ ']' := by rcases eq_of_isDelimiter hc with rfl | rfl <;> decide
    simp [text, delimiter_not_mem_writeIpv6 hc, hbracket]

theorem delimiter_not_mem_writeLabel (hc : isDelimiter c = true) {label : List Char} (h : c ∉ label) :
    c ∉ writeLabel label := by
  rw [writeLabel]
  split
  · exact h
  · have hmark : c ∉ "xn--".toList := by rcases eq_of_isDelimiter hc with rfl | rfl <;> decide
    exact fun hmem => (List.mem_append.mp hmem).elim hmark (Text.Punycode.delimiter_not_mem_encode hc h)

theorem delimiter_not_mem_domain (hc : isDelimiter c = true) {cs name : List Char} (h : domain? cs = some name) :
    c ∉ name := by
  rw [domain?] at h
  split at h
  · split at h
    · rename_i hallowed
      cases h
      simp only [Bool.and_eq_true, Bool.not_eq_eq_eq_not, Bool.not_true, List.any_eq_false] at hallowed
      have hforbidden : isForbiddenInDomain c = true ∧ c ≠ '.' := by
        rcases eq_of_isDelimiter hc with rfl | rfl <;> decide
      refine Text.not_mem_intercalate (by simpa using hforbidden.2) fun w hw => ?_
      obtain ⟨label, hlabel, rfl⟩ := List.mem_map.mp hw
      refine delimiter_not_mem_writeLabel hc fun hmem => ?_
      exact hallowed.1 c (Text.of_mem_splitOnP hlabel c hmem).1 hforbidden.1
    · cases h
  · cases h

theorem delimiter_not_mem_bracketed (hc : isDelimiter c = true) {cs : List Char} {host : Host}
    (h : bracketed? cs = .ok host) : c ∉ host.text.toList := by
  rw [bracketed?] at h
  repeat' split at h
  all_goals cases h
  exact delimiter_not_mem_address hc _ nofun

theorem delimiter_not_mem_special (hc : isDelimiter c = true) {cs : List Char} {host : Host} (h : special cs = .ok host) :
    c ∉ host.text.toList := by
  rw [special] at h
  split at h
  · exact delimiter_not_mem_bracketed hc h
  · split at h
    · cases h
    · rename_i name hname
      repeat' split at h
      all_goals cases h
      · exact delimiter_not_mem_address hc _ nofun
      · simpa [text] using delimiter_not_mem_domain hc hname

theorem delimiter_not_mem_other (hc : isDelimiter c = true) {cs : List Char} {host : Host} (h : other cs = .ok host) :
    c ∉ host.text.toList := by
  rw [other] at h
  split at h
  · exact delimiter_not_mem_bracketed hc h
  · split at h
    · cases h
    · rename_i hallowed
      cases h
      simp only [List.any_eq_true, not_exists, not_and] at hallowed
      rw [text, String.toList_ofList]
      have hplain : c ≠ '%' ∧ Text.Percent.hexValue? c = none ∧ isForbiddenInOther c = true := by
        rcases eq_of_isDelimiter hc with rfl | rfl <;> decide
      exact fun hmem => hallowed c (Text.Percent.of_mem_encodeChars hplain.1 hplain.2.1 hmem).1 hplain.2.2

end Host

end SchemaBeans
