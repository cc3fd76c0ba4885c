import Mathlib.Data.Set.Function
import SchemaBeans.Proofs.Json.Places

/-! Keys and tokens correspond.

A token has no slash, and each tilde in it starts an escape. Every key has one token that is written for it, and every
token is the one that is written for its key. Replacing one kind of escape after the other reads any text as going
through it once does, since no replacement makes a new escape (`Pointer.decode`). -/

namespace SchemaBeans.Pointer

/-! ### Tokens -/

/-- No character is a slash, and a zero or a one follows every tilde. -/
def WellEscaped (cs : List Char) : Prop :=
  '/' ∉ cs ∧ ∀ i < cs.length, cs[i]? = some '~' → cs[i + 1]? = some '0' ∨ cs[i + 1]? = some '1'

/-- A text that is a token. -/
def IsToken (text : String) : Prop := WellEscaped text.toList

instance (text : String) : Decidable (IsToken text) := inferInstanceAs (Decidable (_ ∧ _))

theorem wellEscaped_nil : WellEscaped [] := ⟨List.not_mem_nil, by simp⟩

theorem wellEscaped_cons {c : Char} {cs : List Char} :
    WellEscaped (c :: cs) ↔ c ≠ '/' ∧ (c = '~' → cs[0]? = some '0' ∨ cs[0]? = some '1') ∧ WellEscaped cs := by
  unfold WellEscaped
  rw [List.mem_cons, not_or, List.length_cons, Nat.forall_lt_succ_left]
  simp only [List.getElem?_cons_zero, List.getElem?_cons_succ, Option.some.injEq, ne_comm]
  tauto

theorem escapeSlash_escapeTilde_cons (c : Char) (cs : List Char) :
    escapeSlash (escapeTilde (c :: cs)) =
      (if c = '~' then ['~', '0'] else if c = '/' then ['~', '1'] else [c]) ++ escapeSlash (escapeTilde cs) := by
  rw [escapeTilde]
  split
  · simp [escapeSlash]
  · rw [escapeSlash]
    split <;> simp

theorem wellEscaped_escape (cs : List Char) : WellEscaped (escapeSlash (escapeTilde cs)) := by
  induction cs with
  | nil => exact wellEscaped_nil
  | cons c cs ih =>
    rw [escapeSlash_escapeTilde_cons]
    split
    · simp [wellEscaped_cons, ih]
    · rename_i htilde
      split
      · simp [wellEscaped_cons, ih]
      · rename_i hslash
        simp [wellEscaped_cons, ih, htilde, hslash]

/-! ### Reading in one pass -/

/-- A token read from left to right, each escape as it comes. A tilde that starts none stands for itself. -/
def decode : List Char → List Char
  | '~' :: '0' :: rest => '~' :: decode rest
  | '~' :: '1' :: rest => '/' :: decode rest
  | c :: rest => c :: decode rest
  | [] => []

theorem decode_cons_of_ne {c : Char} (hc : c ≠ '~') (cs : List Char) : decode (c :: cs) = c :: decode cs := by
  rw [decode]
  · exact fun _ h => absurd h hc
  · exact fun _ h => absurd h hc

theorem unescapeSlash_cons_of_ne {c : Char} (hc : c ≠ '~') (cs : List Char) :
    unescapeSlash (c :: cs) = c :: unescapeSlash cs := by
  rw [unescapeSlash]
  intro rest h
  exact absurd h hc

/-- Replacing escapes of slashes and then those of tildes comes to the same. -/
theorem unescapeTilde_unescapeSlash (cs : List Char) : unescapeTilde (unescapeSlash cs) = decode cs := by
  fun_induction decode cs with
  | case1 rest ih => simp [unescapeSlash, unescapeTilde, ih]
  | case2 rest ih => simp [unescapeSlash, unescapeTilde, ih]
  | case3 c rest hzero hone ih =>
    by_cases hc : c = '~'
    · subst hc
      -- What follows the tilde is no zero, and replacing escapes of slashes puts none there.
      have hnone : ∀ cs, unescapeSlash rest ≠ '0' :: cs := by
        intro cs hcs
        obtain ⟨rest', hrest', -⟩ := head_unescapeSlash hcs (by decide)
        exact hzero rest' rfl hrest'
      rw [unescapeSlash, unescapeTilde, ih]
      · exact fun cs _ hcs => hnone cs hcs
      · exact fun rest' h hrest' => hone rest' h hrest'
    · rw [unescapeSlash_cons_of_ne hc, unescapeTilde_cons_of_ne hc, ih]
  | case4 => rfl

theorem decode_escape (cs : List Char) : decode (escapeSlash (escapeTilde cs)) = cs := by
  induction cs with
  | nil => rfl
  | cons c cs ih =>
    rw [escapeSlash_escapeTilde_cons]
    split
    · rename_i hc
      simp [hc, decode, ih]
    · rename_i htilde
      split
      · rename_i hc
        simp [hc, decode, ih]
      · rw [List.singleton_append, decode_cons_of_ne htilde, ih]

theorem escape_decode {cs : List Char} (h : WellEscaped cs) : escapeSlash (escapeTilde (decode cs)) = cs := by
  fun_induction decode cs with
  | case1 rest ih =>
    have hrest : WellEscaped rest := (wellEscaped_cons.mp (wellEscaped_cons.mp h).2.2).2.2
    rw [escapeSlash_escapeTilde_cons, ih hrest]
    rfl
  | case2 rest ih =>
    have hrest : WellEscaped rest := (wellEscaped_cons.mp (wellEscaped_cons.mp h).2.2).2.2
    rw [escapeSlash_escapeTilde_cons, ih hrest]
    rfl
  | case3 c rest hzero hone ih =>
    obtain ⟨hslash, hescape, hrest⟩ := wellEscaped_cons.mp h
    -- A tilde that starts no escape is not well escaped.
    have htilde : c ≠ '~' := by
      intro hc
      cases rest with
      | nil => simp [hc] at hescape
      | cons d rest =>
        rcases hescape hc with hd | hd
        · exact hzero rest hc (by simpa using hd)
        · exact hone rest hc (by simpa using hd)
    rw [escapeSlash_escapeTilde_cons, ih hrest, if_neg htilde, if_neg hslash]
    rfl
  | case4 => rfl

/-! ### Keys and tokens -/

theorem isToken_escape (key : String) : IsToken (escape key) := by
  rw [IsToken, escape, String.toList_ofList]
  exact wellEscaped_escape key.toList

theorem slash_not_mem_escape (key : String) : '/' ∉ (escape key).toList := (isToken_escape key).1

theorem unescape_eq_decode (text : String) : unescape text = String.ofList (decode text.toList) := by
  rw [unescape, unescapeTilde_unescapeSlash]

theorem unescape_escape (key : String) : unescape (escape key) = key := by
  rw [unescape_eq_decode, escape, String.toList_ofList, decode_escape, String.ofList_toList]

theorem escape_unescape {token : String} (h : IsToken token) : escape (unescape token) = token := by
  rw [unescape_eq_decode, escape, String.toList_ofList, escape_decode h, String.ofList_toList]

/-- Writing tokens for keys is one to one, and onto the texts that are tokens. What is written for a key is a token and
    is read as the key, and a token is what is written for the key that it is read as. Any text is read as in one
    pass. -/
theorem keys_correspond_to_tokens :
    (∀ key, IsToken (escape key) ∧ unescape (escape key) = key) ∧
    (∀ token, IsToken token → escape (unescape token) = token) ∧
    Set.BijOn escape Set.univ {token | IsToken token} ∧
    ∀ text, unescape text = String.ofList (decode text.toList) := by
  have hinverse : Set.InvOn unescape escape Set.univ {token | IsToken token} :=
    ⟨fun key _ => unescape_escape key, fun _ h => escape_unescape h⟩
  refine ⟨fun key => ⟨isToken_escape key, unescape_escape key⟩, fun _ h => escape_unescape h, ?_, unescape_eq_decode⟩
  exact hinverse.bijOn (fun key _ => isToken_escape key) fun _ _ => Set.mem_univ _

/-- An escaped tilde may stand before a digit. -/
theorem keys_correspond_to_tokens_digits :
    IsToken "~01~1~00" ∧ unescape "~01~1~00" = "~1/~0" ∧ escape (unescape "~01~1~00") = "~01~1~00" :=
  ⟨by decide, by decide +kernel, keys_correspond_to_tokens.2.1 "~01~1~00" (by decide)⟩

end SchemaBeans.Pointer
