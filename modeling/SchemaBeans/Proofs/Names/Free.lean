import Mathlib.Data.List.Nodup
import Mathlib.Data.List.Perm.Subperm
import SchemaBeans.Names

/-! A name that is found for a type is free.

The candidates for a name differ from each other, so among one more candidates than there are names in use
one is free, and the search ends there. They differ from those for another name too, if neither name ends in a
digit. A type that is given a free name takes it; giving it back frees that name and no other. -/

namespace SchemaBeans

/-! ### Numbered names -/

namespace Numbering

theorem candidate_injective {name separator : String} {i j : Nat}
    (h : candidate name separator i = candidate name separator j) : i = j := by
  have hlists : (candidate name separator i).toList = (candidate name separator j).toList := by rw [h]
  have hdigits : ∀ n, (decimal n).toList = Nat.toDigits 10 n := fun n => String.toList_ofList
  -- Only the first candidate is as short as the name.
  have hlong : ∀ n, name.toList ++ (separator.toList ++ Nat.toDigits 10 n) ≠ name.toList := by
    intro n heq
    have hnil := List.append_right_eq_self.mp heq
    exact Nat.toDigits_ne_nil (List.append_eq_nil_iff.mp hnil).2
  unfold candidate at hlists
  split at hlists <;> split at hlists <;> simp only [String.toList_append, hdigits, List.append_assoc] at hlists
  · omega
  · exact absurd hlists.symm (hlong j)
  · exact absurd hlists (hlong i)
  · have hparsed := congrArg (fun digits => Nat.ofDigitChars 10 digits 0)
      (List.append_cancel_left (List.append_cancel_left hlists))
    simpa using hparsed

/-- What is left of a numbered name without the digits at its end, if the name has none there. -/
theorem dropWhile_candidate {name : String} {i : Nat} (hname : ∀ c, name.toList.getLast? = some c → c.isDigit = false) :
    (candidate name "" i).toList.reverse.dropWhile Char.isDigit = name.toList.reverse := by
  have hself : name.toList.reverse.dropWhile Char.isDigit = name.toList.reverse := by
    rw [← List.head?_reverse] at hname
    cases hcs : name.toList.reverse with
    | nil => rfl
    | cons c cs =>
      rw [hcs] at hname
      simp [hname c rfl]
  have hdigits : ∀ c ∈ (decimal i).toList.reverse, c.isDigit = true := by
    intro c hc
    rw [List.mem_reverse, decimal, String.toList_ofList] at hc
    exact Nat.isDigit_of_mem_toDigits (by decide) (by decide) hc
  unfold candidate
  split
  · exact hself
  · rw [String.append_empty, String.toList_append, List.reverse_append, List.dropWhile_append_of_pos hdigits, hself]

/-- Numbers after different names make different names, where no name ends in a digit. -/
theorem eq_of_candidate_eq {name name' : String} {i j : Nat}
    (hname : ∀ c, name.toList.getLast? = some c → c.isDigit = false)
    (hname' : ∀ c, name'.toList.getLast? = some c → c.isDigit = false)
    (h : candidate name "" i = candidate name' "" j) : name = name' := by
  have hreverse : name.toList.reverse = name'.toList.reverse := by
    rw [← dropWhile_candidate hname, h, dropWhile_candidate hname']
  exact String.toList_injective (List.reverse_injective hreverse)

theorem firstFree_isFree {isFree : Nat → Bool} {fuel start : Nat}
    (h : ∃ k, start ≤ k ∧ k ≤ start + fuel ∧ isFree k = true) : isFree (firstFree isFree fuel start) = true := by
  induction fuel generalizing start with
  | zero =>
    obtain ⟨k, hlo, hhi, hk⟩ := h
    cases (by omega : k = start)
    exact hk
  | succ fuel ih =>
    unfold firstFree
    split
    · assumption
    · rename_i hstart
      obtain ⟨k, hlo, hhi, hk⟩ := h
      have hne : k ≠ start := by
        rintro rfl
        exact hstart hk
      exact ih ⟨k, by omega, by omega, hk⟩

theorem le_firstFree (isFree : Nat → Bool) (fuel start : Nat) : start ≤ firstFree isFree fuel start := by
  induction fuel generalizing start with
  | zero => exact Nat.le_refl start
  | succ fuel ih =>
    unfold firstFree
    split
    · exact Nat.le_refl start
    · exact Nat.le_of_succ_le (ih (start + 1))

theorem firstFree_least {isFree : Nat → Bool} {fuel start k : Nat} (hlo : start ≤ k) (hk : k < firstFree isFree fuel start) :
    isFree k = false := by
  induction fuel generalizing start with
  | zero =>
    rw [firstFree] at hk
    omega
  | succ fuel ih =>
    unfold firstFree at hk
    split at hk
    · omega
    · rename_i hstart
      by_cases hne : k = start
      · subst hne
        exact Bool.eq_false_iff.mpr hstart
      · exact ih (by omega) hk

/-- A list that has the first candidates is no shorter than there are of them, where their keys tell them apart. -/
theorem le_length_of_candidates {α : Type} {name separator : String} (key : String → α)
    (hkey : ∀ {i j}, key (candidate name separator i) = key (candidate name separator j) → i = j) {keys : List α}
    {count : Nat} (hkeys : ∀ i, 1 ≤ i → i ≤ count → key (candidate name separator i) ∈ keys) : count ≤ keys.length := by
  have hnodup : ((List.range count).map fun i => key (candidate name separator (i + 1))).Nodup := by
    refine List.Nodup.map (fun i j hij => ?_) List.nodup_range
    have := hkey hij
    omega
  have hsub : ((List.range count).map fun i => key (candidate name separator (i + 1))) ⊆ keys := by
    intro n hn
    obtain ⟨i, hi, rfl⟩ := List.mem_map.mp hn
    rw [List.mem_range] at hi
    exact hkeys (i + 1) (by omega) (by omega)
  have hlen := (hnodup.subperm hsub).length_le
  rwa [List.length_map, List.length_range] at hlen

/-- The name that is picked is not in use, where what tells the names in use apart is in a list that is no longer
    than the bound of the search, and tells all candidates apart. -/
theorem pick_free_of_key {α : Type} (isUsed : String → Bool) {used : Nat} (name separator : String) (key : String → α)
    (hkey : ∀ {i j}, key (candidate name separator i) = key (candidate name separator j) → i = j) (keys : List α)
    (hused : keys.length ≤ used) (hkeys : ∀ n, isUsed n = true → key n ∈ keys) :
    isUsed (pick isUsed used name separator) = false := by
  suffices hfree : ∃ k, 1 ≤ k ∧ k ≤ 1 + used ∧ (!isUsed (candidate name separator k)) = true by
    have hpicked := firstFree_isFree hfree
    simpa [pick] using hpicked
  by_contra hnone
  simp only [not_exists, not_and, Bool.not_eq_true', Bool.not_eq_false] at hnone
  -- Then all of the first `used + 1` candidates have their keys in the list, which is too short for them.
  have hlen : used + 1 ≤ keys.length :=
    le_length_of_candidates key hkey fun i hlo hhi => hkeys _ (hnone i hlo (by omega))
  omega

/-- The name that is picked is not in use, where the names in use are among a list that is no longer than the
    bound of the search. -/
theorem pick_free {isUsed : String → Bool} {used : Nat} (names : List String) (hused : names.length ≤ used)
    (hnames : ∀ n, isUsed n = true → n ∈ names) (name separator : String) :
    isUsed (pick isUsed used name separator) = false :=
  pick_free_of_key isUsed name separator id candidate_injective names hused hnames

end Numbering

/-! ### The names in use -/

/-- What tells types of different sources apart: the package and the name, whatever the arguments. -/
def JavaType.identity (t : JavaType) : String × String := (t.package, t.name)

namespace Names

theorem mem_reserve {names : Names} {t : JavaType} {n : String × String} :
    n ∈ (names.reserve t).taken ↔ n = t.identity ∨ n ∈ names.taken :=
  List.mem_insert_iff

theorem mem_release {names : Names} {t : JavaType} {n : String × String} :
    n ∈ (names.release t).taken ↔ n ∈ names.taken ∧ n ≠ t.identity := by
  simp [release, JavaType.identity]

section Unique
variable {names names' : Names} {package name : String} {t : JavaType}
  (h : names.unique package name = (t, names'))
include h

theorem unique_taken {n : String × String} : n ∈ names'.taken ↔ n = t.identity ∨ n ∈ names.taken := by
  cases h
  exact mem_reserve

theorem unique_free : t.identity ∉ names.taken := by
  cases h
  have hfree : names.isTaken package (Numbering.pick (names.isTaken package) names.taken.length name "") = false := by
    refine Numbering.pick_free (names.taken.map (·.2)) (Nat.le_of_eq (List.length_map _)) (fun n hn => ?_) name ""
    exact List.mem_map.mpr ⟨(package, n), List.contains_iff_mem.mp hn, rfl⟩
  intro hmem
  exact Bool.false_ne_true (hfree.symm.trans (List.contains_iff_mem.mpr hmem))

theorem unique_numbered : ∃ k, t = .plain package (Numbering.candidate name "" k) ∧ 1 ≤ k ∧
    ∀ i, 1 ≤ i → i < k → (package, Numbering.candidate name "" i) ∈ names.taken := by
  cases h
  refine ⟨_, rfl, Numbering.le_firstFree _ _ _, fun i hlo hi => ?_⟩
  have hused : names.isTaken package (Numbering.candidate name "" i) = true := by
    simpa using Numbering.firstFree_least hlo hi
  exact List.contains_iff_mem.mp hused

end Unique

/-- More names in use make no difference to the type that is found if it has none of them. -/
theorem unique_of_more {names more : Names} {extra : List (String × String)} {package name : String}
    (hmore : ∀ n, n ∈ more.taken ↔ n ∈ names.taken ∨ n ∈ extra)
    (hfree : (names.unique package name).1.identity ∉ extra) :
    (more.unique package name).1 = (names.unique package name).1 := by
  rcases hs : names.unique package name with ⟨x, _⟩
  rcases ht : more.unique package name with ⟨y, _⟩
  rw [hs] at hfree
  obtain ⟨i, rfl, hi, hlower⟩ := unique_numbered hs
  obtain ⟨j, rfl, hj, hbelow⟩ := unique_numbered ht
  have hij : j = i := by
    rcases Nat.lt_trichotomy j i with hlt | heq | hlt
    · exact absurd ((hmore _).mpr (Or.inl (hlower j hj hlt))) (unique_free ht)
    · exact heq
    · rcases (hmore _).mp (hbelow i hi hlt) with htaken | hextra
      · exact absurd htaken (unique_free hs)
      · exact absurd hextra hfree
  rw [hij]

end Names

end SchemaBeans
