import Mathlib.Order.Bounds.Basic
import SchemaBeans.Proofs.Names.Free

/-! Names that were found are different until they are given back.

The search for a free name goes from number to number until one is free (`Numbering.Finds`). Nothing else ends it, and
it does end, since the candidates differ and only finitely many names are in use. A name stays in use until a call
gives it back, so what is found later, for whatever name, is another one. -/

namespace SchemaBeans

/-! ### The search -/

namespace Numbering

/-- The search for a free number: from a number on, one after the other, until one is free. -/
inductive Finds (isFree : Nat → Bool) : Nat → Nat → Prop
  | here {n : Nat} : isFree n = true → Finds isFree n n
  | further {n k : Nat} : isFree n = false → Finds isFree (n + 1) k → Finds isFree n k

/-- The search comes to its end where there is a free number with none before it. -/
theorem Finds.of_least {isFree : Nat → Bool} {start k : Nat} (hle : start ≤ k) (hk : isFree k = true)
    (hlower : ∀ i, start ≤ i → i < k → isFree i = false) : Finds isFree start k := by
  obtain ⟨distance, rfl⟩ := Nat.exists_eq_add_of_le hle
  induction distance generalizing start with
  | zero => exact .here hk
  | succ distance ih =>
    have hstart : isFree start = false := hlower start (Nat.le_refl start) (by omega)
    have hrest : Finds isFree (start + 1) (start + 1 + distance) := by
      refine ih (by omega) ?_ fun i hlo hi => hlower i (by omega) (by omega)
      rwa [Nat.add_right_comm]
    rw [Nat.add_right_comm] at hrest
    exact .further hstart hrest

end Numbering

namespace Names

variable {names : Names}

theorem isTaken_iff {package name : String} : names.isTaken package name = true ↔ (package, name) ∈ names.taken :=
  List.contains_iff_mem

theorem isTaken_eq_false_iff {package name : String} :
    names.isTaken package name = false ↔ (package, name) ∉ names.taken := by
  rw [← Bool.not_eq_true, isTaken_iff]

section Unique
variable {later : Names} {package name : String} {t : JavaType} (h : names.unique package name = (t, later))
include h

theorem unique_isFree : names.isTaken package t.name = false := by
  obtain ⟨k, rfl, -, -⟩ := unique_numbered h
  exact isTaken_eq_false_iff.mpr (unique_free h)

/-- The type has the name with the number that the search ends with, and no number is higher than there are names in
    use with it. -/
theorem unique_finds : ∃ k, t = .plain package (Numbering.candidate name "" k) ∧
    Numbering.Finds (fun i => !names.isTaken package (Numbering.candidate name "" i)) 1 k ∧ k ≤ later.taken.length := by
  obtain ⟨k, rfl, hk, hlower⟩ := unique_numbered h
  have hfree := unique_isFree h
  refine ⟨k, rfl, .of_least hk ?_ fun i hlo hi => ?_, ?_⟩
  · exact Bool.not_eq_eq_eq_not.mpr hfree
  · exact Bool.not_eq_eq_eq_not.mpr (isTaken_iff.mpr (hlower i hlo hi))
  · have hpair : ∀ {i j}, (package, Numbering.candidate name "" i) = (package, Numbering.candidate name "" j) → i = j :=
      fun heq => Numbering.candidate_injective (Prod.mk.inj heq).2
    refine Numbering.le_length_of_candidates (fun n => (package, n)) hpair fun i hlo hi => ?_
    rcases Nat.lt_or_eq_of_le hi with hlt | rfl
    · exact (unique_taken h).mpr (Or.inr (hlower i hlo hlt))
    · exact (unique_taken h).mpr (Or.inl rfl)

/-- The name that was asked for if it is free, or else with the least number from `2` on with which it is. -/
theorem unique_least :
    (names.isTaken package name = false ∧ t = .plain package name) ∨
    (names.isTaken package name = true ∧ ∃ k, t = .plain package (name ++ decimal k) ∧
      IsLeast {i | 2 ≤ i ∧ names.isTaken package (name ++ decimal i) = false} k) := by
  have hcandidate : ∀ i, 2 ≤ i → Numbering.candidate name "" i = name ++ decimal i := by
    intro i hi
    simp [Numbering.candidate, show i ≠ 1 by omega]
  obtain ⟨k, rfl, hk, hlower⟩ := unique_numbered h
  have hfree := unique_isFree h
  rcases Nat.eq_or_lt_of_le hk with rfl | hk
  · exact Or.inl ⟨hfree, rfl⟩
  · refine Or.inr ⟨isTaken_iff.mpr (hlower 1 (Nat.le_refl 1) hk), k, by rw [hcandidate k hk], ⟨hk, ?_⟩, ?_⟩
    · rwa [← hcandidate k hk]
    · rintro i ⟨hi, hifree⟩
      by_contra hlt
      rw [← hcandidate i hi] at hifree
      exact isTaken_eq_false_iff.mp hifree (hlower i (by omega) (by omega))

/-- Every other name is in use exactly if it was before. -/
theorem unique_others {p n : String} (hne : (p, n) ≠ (package, t.name)) : later.isTaken p n = names.isTaken p n := by
  obtain ⟨k, ht, -, -⟩ := unique_numbered h
  have hidentity : t.identity = (package, t.name) := by
    subst ht
    rfl
  rw [Bool.eq_iff_iff, isTaken_iff, isTaken_iff, unique_taken h, hidentity]
  exact or_iff_right hne

end Unique

/-! ### Calls -/

/-- What can be done with names: taking that of a type, giving it back, and finding one that is free. -/
inductive Call where
  | reserve (t : JavaType)
  | release (t : JavaType)
  | unique (package name : String)
deriving DecidableEq, Repr

def perform (names : Names) : Call → Names
  | .reserve t => names.reserve t
  | .release t => names.release t
  | .unique package name => (names.unique package name).2

/-- The names in use after calls, where none was in use before. -/
def after (calls : List Call) : Names := calls.foldl perform empty

theorem after_append (calls more : List Call) : after (calls ++ more) = more.foldl perform (after calls) := by
  rw [after, List.foldl_append, after]

theorem nodup_perform (h : names.taken.Nodup) (call : Call) : (names.perform call).taken.Nodup := by
  cases call with
  | reserve t => exact h.insert
  | release t => exact h.filter _
  | unique package name => exact h.insert

theorem nodup_foldl_perform (h : names.taken.Nodup) (calls : List Call) : (calls.foldl perform names).taken.Nodup := by
  induction calls generalizing names with
  | nil => exact h
  | cons call calls ih => exact ih (nodup_perform h call)

/-- A name in use stays in use unless the call gives it back. -/
theorem mem_perform {n : String × String} (h : n ∈ names.taken) {call : Call}
    (hkept : ∀ x, call = .release x → x.identity ≠ n) : n ∈ (names.perform call).taken := by
  cases call with
  | reserve t => exact mem_reserve.mpr (Or.inr h)
  | release t => exact mem_release.mpr ⟨h, (hkept t rfl).symm⟩
  | unique package name => exact mem_reserve.mpr (Or.inr h)

theorem mem_foldl_perform {n : String × String} (h : n ∈ names.taken) {calls : List Call}
    (hkept : ∀ x, .release x ∈ calls → x.identity ≠ n) : n ∈ (calls.foldl perform names).taken := by
  induction calls generalizing names with
  | nil => exact h
  | cons call calls ih =>
    refine ih (mem_perform h ?_) fun x hx => hkept x (List.mem_cons_of_mem call hx)
    rintro x rfl
    exact hkept x List.mem_cons_self

/-- What finding a name promises after any calls. The search ends, with a number that is no higher than there are names
    in use then, each of them listed once. The name was free and is in use from then on: it is the one that was asked
    for, or if that was in use the one with the least number from `2` on that was free. No other name changes. As long
    as the name is not given back, whatever name is asked for next in the package, another one is found. -/
theorem found_names_apart (calls : List Call) (package name : String) :
    let names := after calls
    let t := (names.unique package name).1
    let later := after (calls ++ [Call.unique package name])
    (∃ k, t = .plain package (Numbering.candidate name "" k) ∧
      Numbering.Finds (fun i => !names.isTaken package (Numbering.candidate name "" i)) 1 k ∧
      k ≤ later.taken.length ∧ later.taken.Nodup) ∧
    names.isTaken package t.name = false ∧ later.isTaken package t.name = true ∧
    ((names.isTaken package name = false ∧ t = .plain package name) ∨
      (names.isTaken package name = true ∧ ∃ k, t = .plain package (name ++ decimal k) ∧
        IsLeast {i | 2 ≤ i ∧ names.isTaken package (name ++ decimal i) = false} k)) ∧
    (∀ p n, (p, n) ≠ (package, t.name) → later.isTaken p n = names.isTaken p n) ∧
    ∀ (between : List Call) (other : String), (∀ x, .release x ∈ between → x.identity ≠ t.identity) →
      ((after (calls ++ Call.unique package name :: between)).unique package other).1 ≠ t := by
  intro names t later
  have h : names.unique package name = (t, later) := by
    show _ = (_, after (calls ++ [Call.unique package name]))
    rw [after_append]
    rfl
  have htaken : t.identity ∈ later.taken := (unique_taken h).mpr (Or.inl rfl)
  have hnodup : later.taken.Nodup := nodup_foldl_perform List.nodup_nil _
  obtain ⟨k, ht, hfinds, hbound⟩ := unique_finds h
  refine ⟨⟨k, ht, hfinds, hbound, hnodup⟩, unique_isFree h, ?_, unique_least h, fun _ _ => unique_others h, ?_⟩
  · rw [ht] at htaken ⊢
    exact isTaken_iff.mpr htaken
  · intro between other hkept heq
    have hstays : t.identity ∈ (after (calls ++ Call.unique package name :: between)).taken := by
      rw [List.append_cons, after_append]
      exact mem_foldl_perform htaken hkept
    rw [← heq] at hstays
    exact unique_free rfl hstays

/-- A number after one name can make another name that is asked for. -/
theorem found_names_apart_overlapping :
    ((after [.unique "pkg" "Type"]).unique "pkg" "Type").1 = .plain "pkg" "Type2" ∧
    ((after [.unique "pkg" "Type", .unique "pkg" "Type", .release (.plain "pkg" "Type")]).unique "pkg" "Type2").1 ≠
      ((after [.unique "pkg" "Type"]).unique "pkg" "Type").1 := by
  have hfound : ((after [.unique "pkg" "Type"]).unique "pkg" "Type").1 = .plain "pkg" "Type2" := by decide +kernel
  refine ⟨hfound, (found_names_apart [.unique "pkg" "Type"] "pkg" "Type").2.2.2.2.2 [.release (.plain "pkg" "Type")]
    "Type2" ?_⟩
  rw [hfound]
  simp [JavaType.identity, JavaType.plain]

end Names

end SchemaBeans
