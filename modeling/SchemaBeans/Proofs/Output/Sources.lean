import Mathlib.Data.List.Induction
import SchemaBeans.Output

/-! Sources in memory do not depend on the order in which they are written.

Paths are ordered by their parts, strictly and totally. A store keeps its sources in this order, so two
stores that the same sources were written to are the same (`SourceStore.ofWritten_sources_eq`). -/

namespace SchemaBeans

/-! ### The order of paths -/

namespace PathPart

theorem before_iff {a b : PathPart} :
    a.before b = true ↔ a.rank < b.rank ∨ ∃ s t, a = .name s ∧ b = .name t ∧ s < t := by
  unfold before
  split
  · rename_i s t
    rw [decide_eq_true_eq]
    constructor
    · exact fun h => Or.inr ⟨s, t, rfl, rfl, h⟩
    · rintro (h | ⟨_, _, hs, ht, h⟩)
      · exact absurd h (Nat.lt_irrefl _)
      · cases hs
        cases ht
        exact h
  · rename_i hne
    rw [decide_eq_true_eq]
    constructor
    · exact Or.inl
    · rintro (h | ⟨s, t, hs, ht, -⟩)
      · exact h
      · exact absurd ht (hne s t hs)

theorem not_before_self (a : PathPart) : ¬a.before a = true := by
  rw [before_iff]
  rintro (h | ⟨s, t, hs, ht, h⟩)
  · exact Nat.lt_irrefl _ h
  · cases hs.symm.trans ht
    exact String.lt_irrefl _ h

theorem before_trans {a b c : PathPart} (h₁ : a.before b = true) (h₂ : b.before c = true) : a.before c = true := by
  rw [before_iff] at h₁ h₂ ⊢
  rcases h₁ with h₁ | ⟨s, t, rfl, rfl, h₁⟩
  · rcases h₂ with h₂ | ⟨t, u, rfl, rfl, -⟩
    · exact Or.inl (Nat.lt_trans h₁ h₂)
    · exact Or.inl h₁
  · rcases h₂ with h₂ | ⟨t', u, ht, rfl, h₂⟩
    · exact Or.inl h₂
    · cases ht
      exact Or.inr ⟨s, u, rfl, rfl, String.lt_trans h₁ h₂⟩

theorem names_of_rank_eq {a b : PathPart} (h : a.rank = b.rank) : a = b ∨ ∃ s t, a = .name s ∧ b = .name t := by
  cases a <;> cases b <;> simp [rank] at h ⊢

theorem before_total {a b : PathPart} (h : a ≠ b) : a.before b = true ∨ b.before a = true := by
  rw [before_iff, before_iff]
  rcases Nat.lt_trichotomy a.rank b.rank with hr | hr | hr
  · exact Or.inl (Or.inl hr)
  · obtain ⟨s, t, rfl, rfl⟩ := (names_of_rank_eq hr).resolve_left h
    by_cases hst : s < t
    · exact Or.inl (Or.inr ⟨s, t, rfl, rfl, hst⟩)
    · refine Or.inr (Or.inr ⟨t, s, rfl, rfl, Decidable.not_not.mp fun hts => h ?_⟩)
      rw [String.le_antisymm (String.not_lt.mp hts) (String.not_lt.mp hst)]
  · exact Or.inr (Or.inl hr)

end PathPart

namespace Path

theorem not_partsBefore_self (as : List PathPart) : ¬partsBefore as as = true := by
  induction as with
  | nil => exact Bool.false_ne_true
  | cons a as ih => rwa [partsBefore, if_pos rfl]

theorem partsBefore_trans {as bs cs : List PathPart} (h₁ : partsBefore as bs = true) (h₂ : partsBefore bs cs = true) :
    partsBefore as cs = true := by
  induction as generalizing bs cs with
  | nil =>
    cases cs with
    | nil => cases bs <;> cases h₂
    | cons c cs => rfl
  | cons a as ih =>
    cases bs with
    | nil => cases h₁
    | cons b bs =>
      cases cs with
      | nil => cases h₂
      | cons c cs =>
        rw [partsBefore] at h₁ h₂ ⊢
        by_cases hab : a = b
        · subst hab
          rw [if_pos rfl] at h₁
          by_cases hac : a = c
          · rw [if_pos hac] at h₂ ⊢
            exact ih h₁ h₂
          · rwa [if_neg hac] at h₂ ⊢
        · rw [if_neg hab] at h₁
          by_cases hbc : b = c
          · subst hbc
            rwa [if_neg hab]
          · rw [if_neg hbc] at h₂
            have hac : a ≠ c := by
              rintro rfl
              exact PathPart.not_before_self a (PathPart.before_trans h₁ h₂)
            rw [if_neg hac]
            exact PathPart.before_trans h₁ h₂

theorem partsBefore_total {as bs : List PathPart} (h : as ≠ bs) :
    partsBefore as bs = true ∨ partsBefore bs as = true := by
  induction as generalizing bs with
  | nil =>
    cases bs with
    | nil => exact absurd rfl h
    | cons b bs => exact Or.inl rfl
  | cons a as ih =>
    cases bs with
    | nil => exact Or.inr rfl
    | cons b bs =>
      rw [partsBefore, partsBefore]
      by_cases hab : a = b
      · subst hab
        rw [if_pos rfl, if_pos rfl]
        exact ih fun heq => h (by rw [heq])
      · rw [if_neg hab, if_neg (Ne.symm hab)]
        exact PathPart.before_total hab

theorem before_trans {a b c : String} (h₁ : before a b = true) (h₂ : before b c = true) : before a c = true :=
  partsBefore_trans h₁ h₂

theorem not_before_self (path : String) : ¬before path path = true :=
  not_partsBefore_self (parts path)

theorem before_of_not {a b : String} (hs : ¬same a b = true) (hb : ¬before a b = true) : before b a = true := by
  rw [same, decide_eq_true_eq] at hs
  exact (partsBefore_total hs).resolve_left hb

end Path

/-! ### Sources -/

namespace SourceStore

/-- The sources are in the order of their paths. -/
def Sorted (sources : List (String × String)) : Prop :=
  sources.Pairwise fun a b => Path.before a.1 b.1 = true

theorem mem_insert_of {path text : String} {sources : List (String × String)} {entry : String × String}
    (h : entry ∈ insert path text sources) :
    (Path.same path entry.1 = true ∧ entry.2 = text) ∨ entry ∈ sources := by
  induction sources with
  | nil =>
    obtain rfl := List.mem_singleton.mp h
    exact Or.inl ⟨decide_eq_true rfl, rfl⟩
  | cons first rest ih =>
    obtain ⟨p, t⟩ := first
    rw [insert] at h
    split at h
    · rename_i hsame
      rcases List.mem_cons.mp h with rfl | h
      · exact Or.inl ⟨hsame, rfl⟩
      · exact Or.inr (List.mem_cons_of_mem _ h)
    · split at h
      · rcases List.mem_cons.mp h with rfl | h
        · exact Or.inl ⟨decide_eq_true rfl, rfl⟩
        · exact Or.inr h
      · rcases List.mem_cons.mp h with rfl | h
        · exact Or.inr List.mem_cons_self
        · exact (ih h).imp_right (List.mem_cons_of_mem _)

theorem Sorted.insert {sources : List (String × String)} (h : Sorted sources) (path text : String) :
    Sorted (insert path text sources) := by
  induction sources with
  | nil => exact List.pairwise_singleton _ _
  | cons first rest ih =>
    obtain ⟨p, t⟩ := first
    obtain ⟨hfirst, hrest⟩ := List.pairwise_cons.mp h
    rw [SourceStore.insert]
    split
    · exact List.pairwise_cons.mpr ⟨hfirst, hrest⟩
    · rename_i hsame
      split
      · rename_i hbefore
        refine List.pairwise_cons.mpr ⟨fun entry he => ?_, h⟩
        rcases List.mem_cons.mp he with rfl | he
        · exact hbefore
        · exact Path.before_trans hbefore (hfirst entry he)
      · rename_i hbefore
        refine List.pairwise_cons.mpr ⟨fun entry he => ?_, ih hrest⟩
        -- The new source comes after the first one, as it is neither the same nor before it.
        rcases mem_insert_of he with ⟨hs, -⟩ | he
        · have hafter := Path.before_of_not hsame hbefore
          rw [Path.same, decide_eq_true_eq] at hs
          rw [Path.before, ← hs]
          exact hafter
        · exact hfirst entry he

theorem mem_insert {path text : String} {sources : List (String × String)}
    (hsame : ∀ entry ∈ sources, Path.same path entry.1 = true → entry = (path, text)) {entry : String × String} :
    entry ∈ insert path text sources ↔ entry = (path, text) ∨ entry ∈ sources := by
  induction sources with
  | nil => simp [insert]
  | cons first rest ih =>
    obtain ⟨p, t⟩ := first
    have ih' := ih fun entry he => hsame entry (List.mem_cons_of_mem _ he)
    rw [insert]
    split
    · rename_i hs
      cases hsame _ List.mem_cons_self hs
      simp
    · split
      · simp
      · rw [List.mem_cons, ih', List.mem_cons]
        tauto

/-- The store after sources have been written one after the other. -/
def ofWritten (sources : List (JavaType × String)) : SourceStore :=
  sources.foldl (fun store entry => store.write entry.1 entry.2) .empty

theorem ofWritten_concat (sources : List (JavaType × String)) (entry : JavaType × String) :
    ofWritten (sources ++ [entry]) = (ofWritten sources).write entry.1 entry.2 := by
  rw [ofWritten, List.foldl_append]
  rfl

theorem sorted_ofWritten (sources : List (JavaType × String)) : Sorted (ofWritten sources).sources := by
  induction sources using List.reverseRecOn with
  | nil => exact List.Pairwise.nil
  | append_singleton sources entry ih =>
    rw [ofWritten_concat]
    exact ih.insert _ _

theorem mem_ofWritten {sources : List (JavaType × String)}
    (hsame : ∀ a ∈ sources, ∀ b ∈ sources, Path.same (sourcePath a.1) (sourcePath b.1) = true → a = b)
    {entry : String × String} :
    entry ∈ (ofWritten sources).sources ↔ ∃ a ∈ sources, entry = (sourcePath a.1, a.2) := by
  induction sources using List.reverseRecOn generalizing entry with
  | nil => simp [ofWritten, empty]
  | append_singleton sources last ih =>
    have ih' := @ih fun a ha b hb => hsame a (List.mem_append_left _ ha) b (List.mem_append_left _ hb)
    rw [ofWritten_concat, write, mem_insert, ih']
    · simp only [List.mem_append, List.mem_singleton]
      constructor
      · rintro (rfl | ⟨a, ha, rfl⟩)
        · exact ⟨last, Or.inr rfl, rfl⟩
        · exact ⟨a, Or.inl ha, rfl⟩
      · rintro ⟨a, ha | rfl, rfl⟩
        · exact Or.inr ⟨a, ha, rfl⟩
        · exact Or.inl rfl
    · intro source hs hpath
      obtain ⟨a, ha, rfl⟩ := ih'.mp hs
      cases hsame last (by simp) a (by simp [ha]) hpath
      rfl

/-- A store does not depend on the order in which its sources were written, nor on how often. -/
theorem ofWritten_sources_eq {sources sources' : List (JavaType × String)} (hmem : ∀ a, a ∈ sources ↔ a ∈ sources')
    (hsame : ∀ a ∈ sources, ∀ b ∈ sources, Path.same (sourcePath a.1) (sourcePath b.1) = true → a = b) :
    (ofWritten sources).sources = (ofWritten sources').sources := by
  have hnodup : ∀ written : List (JavaType × String), (ofWritten written).sources.Nodup := by
    intro written
    refine (sorted_ofWritten written).imp fun {a b} h => ?_
    rintro rfl
    exact Path.not_before_self _ h
  refine List.Perm.eq_of_pairwise (fun a b _ _ h₁ h₂ => ?_) (sorted_ofWritten sources) (sorted_ofWritten sources') ?_
  · exact absurd (Path.before_trans h₁ h₂) (Path.not_before_self _)
  · rw [List.perm_ext_iff_of_nodup (hnodup _) (hnodup _)]
    intro entry
    rw [mem_ofWritten hsame, mem_ofWritten fun a ha b hb => hsame a ((hmem a).mpr ha) b ((hmem b).mpr hb)]
    simp only [hmem]

end SourceStore

end SchemaBeans
