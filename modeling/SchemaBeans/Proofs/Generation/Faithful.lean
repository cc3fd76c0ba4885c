import SchemaBeans.Proofs.Generation.Setting

/-! Sessions that are true to the meaning of locations.

In a `Faithful` session every record, every answer in the journal and every source written so far is what
the setup says it is. This module holds the invariant and how the updates of a generation keep it: reading
and noting, marking a location as pending, settling it with its type and its source, and answering. -/

namespace SchemaBeans

open Java (Source)

namespace Session
variable {w : Setup} {R : Location → Prop} {s t u : Session} {l m : Location} {bound : JavaType} {isNew : Bool}

/-! ### The invariant -/

/-- A location that is recorded, with the type it means. -/
def Accounts (w : Setup) (s : Session) (l : Location) (a : Option JavaType) : Prop :=
  w.Denotes s.mappings l a ∧ (s.record? l).isSome

/-- The type of a location is explained, and the source that comes with it was written. -/
def Vouches (w : Setup) (s : Session) (l : Location) (a : Option JavaType) : Prop :=
  ∃ source, w.Explains s.mappings (s.Accounts w) l a source ∧
    (source.isEmpty = false → ∃ t, a = some t ∧ ⟨l, t, source.text⟩ ∈ s.written)

/-- A source was written for a location that is resolved, and comes with its type. -/
def Warrants (w : Setup) (s : Session) (e : Written) : Prop :=
  s.record? e.location = some (.resolved (some e.type)) ∧
    ∃ source, w.Explains s.mappings (s.Accounts w) e.location (some e.type) source ∧
      source.isEmpty = false ∧ e.text = source.text

/-- All that has happened so far is true to the meaning of locations, concerns those in `R` only, and has not
    failed. -/
structure Faithful (w : Setup) (R : Location → Prop) (s : Session) : Prop extends Standard w .empty s where
  reached : ∀ {l}, (s.record? l).isSome → R l
  recorded : ∀ {l t}, s.mappings.type? l = some t → w.configured.type? l = some t ∨ (s.record? l).isSome
  unfailed : ∀ {l t}, s.record? l ≠ some (.failed t)
  resolved : ∀ {l a}, s.record? l = some (.resolved a) → s.Vouches w l a
  written : ∀ e ∈ s.written, s.Warrants w e
  answered : ∀ {l r}, .answered l r ∈ s.journal → ∃ a, r = .ok a ∧ s.Accounts w l a

/-! ### Growth -/

/-- From `s` to `t` recorded locations stay recorded, and types of locations with one of their own stay. -/
structure Grows (w : Setup) (s t : Session) : Prop where
  type : ∀ {l x}, w.Emits l → s.mappings.type? l = some x → t.mappings.type? l = some x
  record : ∀ {l}, (s.record? l).isSome → (t.record? l).isSome

section Growth
variable {a : Option JavaType} (hg : Grows w s t)
include hg

theorem Accounts.grow (h : s.Accounts w l a) : t.Accounts w l a :=
  ⟨h.1.mono (R := fun _ => True) trivial (fun _ _ => trivial) fun _ => hg.type, hg.record h.2⟩

theorem Grows.explains {source : Source} (h : w.Explains s.mappings (s.Accounts w) l a source) :
    w.Explains t.mappings (t.Accounts w) l a source :=
  h.mono (fun _ he ht => hg.type he ht) fun _ _ hm => hm.grow hg

theorem Vouches.grow (h : s.Vouches w l a) (hw : s.written ⊆ t.written) : t.Vouches w l a := by
  obtain ⟨source, hexp, hsource⟩ := h
  refine ⟨source, hg.explains hexp, fun hne => ?_⟩
  obtain ⟨x, hx, hmem⟩ := hsource hne
  exact ⟨x, hx, hw hmem⟩

theorem Warrants.grow {e : Written} (h : s.Warrants w e) (hr : t.record? e.location = s.record? e.location) :
    t.Warrants w e := by
  obtain ⟨hrec, source, hexp, hsource⟩ := h
  exact ⟨hr.trans hrec, source, hg.explains hexp, hsource⟩

end Growth

theorem Faithful.grows (hs : s.Faithful w R) (ht : t.Faithful w R) (hk : Keeps s t) : Grows w s t where
  type := by
    intro l x _ hx
    rcases hs.recorded hx with hc | hr
    · exact ht.configured hc
    · obtain ⟨r, hr⟩ := Option.isSome_iff_exists.mp hr
      exact (hk.type hr).trans hx
  record := by
    intro l hr
    obtain ⟨r, hr⟩ := Option.isSome_iff_exists.mp hr
    rw [hk.record hr]
    rfl

theorem Faithful.accounts {a : Option JavaType} (h : s.Faithful w R) (hr : s.record? l = some (.resolved a)) :
    s.Accounts w l a := by
  obtain ⟨source, hexp, -⟩ := h.resolved hr
  refine ⟨hexp.denotes fun _ _ hm => hm.1, ?_⟩
  rw [hr]
  rfl

theorem Faithful.start (w : Setup) (output : Output) (files : Files) : (w.session output files).Faithful w R := by
  have hstandard : (w.session output files).Standard w .empty := by
    have hempty : w.start .empty output files = w.session output files := by
      rw [Setup.start, setup_frame]
      rfl
    exact hempty ▸ Standard.start w .empty output files
  rw [setup_frame] at hstandard ⊢
  refine ⟨hstandard, ?_, fun h => Or.inl h, ?_, ?_, ?_, ?_⟩
  · simp [record?, new]
  · simp [record?, new]
  · simp [record?, new]
  · simp [new]
  · simp [new]

/-! ### Types that are there already -/

theorem not_given_of_default {x : JavaType} (hx : x.package = Feature.defaultPackage.default) :
    (x.isPrimitive || KnownTypes.standard.contains x) = false := by
  have hpackage : x.package ≠ "" := by
    rw [hx]
    decide
  have hhead : ∀ name ∈ KnownTypes.standard.names, name.toList.head? = some 'j' := by decide
  have hprimitive : x.isPrimitive = false := by
    rw [JavaType.isPrimitive, JavaType.boxClass?, if_neg hpackage]
    rfl
  rw [hprimitive, Bool.false_or, KnownTypes.contains, ← Bool.not_eq_true, List.contains_iff_mem]
  intro hmem
  have hname := hhead _ hmem
  rw [JavaType.qualifiedName, if_neg hpackage, hx] at hname
  simp [Feature.defaultPackage, String.toList_append] at hname

theorem Standard.isGiven_iff (h : s.Standard w .empty) (hb : s.mappings.type? l = some bound) :
    s.isGiven bound = true ↔ w.Pinned l bound := by
  rw [isGiven, h.known]
  constructor
  · intro hg
    rcases h.named hb with hc | ⟨-, hp, -⟩
    · exact ⟨hc, hg⟩
    · rw [not_given_of_default hp] at hg
      cases hg
  · exact fun hp => hp.2

/-! ### Quiet updates and answers -/

theorem Faithful.quiet (h : s.Faithful w R) (hq : Quiet s t) : t.Faithful w R := by
  have hg : Grows w s t := ⟨fun _ hx => by rw [hq.mappings, hx], fun hr => by rw [hq.record?]; exact hr⟩
  refine ⟨h.toStandard.quiet hq, fun {m} hr => ?_, fun {m x} hx => ?_, fun {m x} => ?_, fun {m a} hr => ?_,
    fun e he => ?_, fun {m r} hm => ?_⟩
  · rw [hq.record?] at hr
    exact h.reached hr
  · rw [hq.mappings] at hx
    rw [hq.record?]
    exact h.recorded hx
  · rw [hq.record?]
    exact h.unfailed
  · rw [hq.record?] at hr
    exact (h.resolved hr).grow hg fun e he => by rw [hq.written]; exact he
  · rw [hq.written] at he
    exact (h.written e he).grow hg (hq.record? _)
  · rw [hq.journal] at hm
    obtain ⟨a, hr, ha⟩ := h.answered hm
    exact ⟨a, hr, ha.grow hg⟩

theorem Faithful.reply {a : Option JavaType} (h : s.Faithful w R) (ha : s.Accounts w l a) :
    (s.reply l (.ok a)).Faithful w R := by
  refine ⟨h.toStandard.congr (Keeps.reply s l _).toSameSetup rfl, h.reached, h.recorded, h.unfailed, h.resolved, h.written,
    fun {m r} hm => ?_⟩
  rcases List.mem_cons.mp hm with hm | hm
  · cases hm
    exact ⟨a, rfl, ha⟩
  · exact h.answered hm

/-! ### Marking a location -/

section Mark
variable (hb : Binds s l bound isNew t)
include hb

theorem Grows.mark : Grows w s (t.setRecord l .pending) := by
  refine ⟨fun _ hx => hb.type?_of_some hx, fun {m} hr => ?_⟩
  by_cases hm : m = l
  · rw [hm, record?_setRecord_self]
    rfl
  · rw [hb.record?_mark_of_ne hm]
    exact hr

theorem Faithful.mark (h : s.Faithful w R) (hl : R l) (hnew : s.record? l = none) :
    (t.setRecord l .pending).Faithful w R := by
  have hg : Grows w s (t.setRecord l .pending) := .mark hb
  -- Nothing that is resolved, failed or written is about the new location.
  have hne : ∀ {m r}, (t.setRecord l .pending).record? m = some r → r ≠ .pending → m ≠ l := by
    rintro m r hr hr' rfl
    rw [record?_setRecord_self] at hr
    cases hr
    exact hr' rfl
  refine ⟨h.toStandard.mark hb _, fun {m} hr => ?_, fun {m x} hx => ?_, fun {m x} hr => ?_, fun {m a} hr => ?_,
    fun e he => ?_, fun {m r} hm => ?_⟩
  · by_cases hm : m = l
    · exact hm ▸ hl
    · rw [hb.record?_mark_of_ne hm] at hr
      exact h.reached hr
  · by_cases hm : m = l
    · rw [hm, record?_setRecord_self]
      exact Or.inr rfl
    · exact (h.recorded ((hb.type?_of_ne hm).symm.trans hx)).imp_right hg.record
  · rw [hb.record?_mark_of_ne (hne hr (by simp))] at hr
    exact h.unfailed hr
  · rw [hb.record?_mark_of_ne (hne hr (by simp))] at hr
    refine (h.resolved hr).grow hg ?_
    rw [hb.frame]
    exact fun _ he => he
  · have he' : e ∈ s.written := by
      rw [hb.frame] at he
      exact he
    have hel : e.location ≠ l := by
      rintro rfl
      rw [(h.written e he').1] at hnew
      cases hnew
    exact (h.written e he').grow hg (hb.record?_mark_of_ne hel)
  · rcases List.mem_cons.mp hm with hm | hm
    · cases hm
    · have hm' : .answered m r ∈ s.journal := by
        rw [hb.frame] at hm
        exact hm
      obtain ⟨a, hr, ha⟩ := h.answered hm'
      exact ⟨a, hr, ha.grow hg⟩

end Mark

/-! ### Settling a location -/

/-- From `s` to `t` sources were written, and nothing else happened but messages. -/
def Wrote (s t : Session) (sources : List Written) : Prop :=
  t = { s with output := t.output, files := t.files, log := t.log, written := s.written ++ sources }

theorem Wrote.nothing (s : Session) : Wrote s s [] := by
  rw [Wrote, List.append_nil]

theorem Wrote.of_write {x : JavaType} {text : String} (h : s.write l x text = (.ok (), t)) :
    Wrote s t [⟨l, x, text⟩] := by
  obtain ⟨_, _, _, rfl⟩ := write_ok h
  rfl

/-- What is written for a location with a given source. -/
def entries (l : Location) (bound : JavaType) (source : Source) : List Written :=
  if source.isEmpty then [] else [⟨l, bound, source.text⟩]

/-- The type `a` and the source of a pending location are explained in `s`, and the source was written on the
    way to `t`. -/
structure Settles (w : Setup) (s t : Session) (l : Location) (bound : JavaType) (isNew : Bool) (a : Option JavaType)
    (source : Source) : Prop where
  pending : s.record? l = some .pending
  binding : s.mappings.type? l = some bound
  unmapped : isNew = true → w.configured.type? l = none
  explained : w.Explains s.mappings (s.Accounts w) l a source
  wrote : Wrote s t (entries l bound source)

namespace Settles
variable {a : Option JavaType} {source : Source} (h : Settles w s t l bound isNew a source)
include h

theorem record?_of_ne (hm : m ≠ l) : (t.settle l bound isNew a).record? m = s.record? m := by
  rw [record?_settle_of_ne hm, record?, h.wrote]
  rfl

theorem type?_of_ne (hm : m ≠ l) : (t.settle l bound isNew a).mappings.type? m = s.mappings.type? m := by
  rw [type?_settle_of_ne hm, h.wrote]

theorem type?_self : (t.settle l bound isNew a).mappings.type? l =
    if isNew && a ≠ some bound then none else some bound := by
  rw [type?_settle_self, h.wrote, h.binding]

theorem written : (t.settle l bound isNew a).written = s.written ++ entries l bound source := by
  rw [settle_frame, h.wrote]

theorem standard (hs : s.Standard w .empty) : (t.settle l bound isNew a).Standard w .empty := by
  have hmappings : t.mappings = s.mappings := by rw [h.wrote]
  have hsame : SameSetup s t := by
    rw [h.wrote]
    exact ⟨rfl, rfl, rfl, .same rfl rfl⟩
  exact (hs.congr hsame hmappings).settle (by rw [hmappings, h.binding]) h.unmapped

theorem type (he : w.Emits l) : a = some bound := by
  obtain ⟨x, hx, ha⟩ := h.explained.type he
  cases h.binding.symm.trans hx
  exact ha

theorem grows : Grows w s (t.settle l bound isNew a) := by
  refine ⟨fun {m x} he hx => ?_, fun {m} hr => ?_⟩
  · by_cases hm : m = l
    · -- The type of the location is not taken back, since it is its own.
      subst hm
      rw [h.type?_self, h.type he, ← h.binding, hx]
      simp
    · rw [h.type?_of_ne hm, hx]
  · by_cases hm : m = l
    · rw [hm, record?_settle_self]
      rfl
    · rw [h.record?_of_ne hm]
      exact hr

theorem vouches : (t.settle l bound isNew a).Vouches w l a := by
  refine ⟨source, h.grows.explains h.explained, fun hs => ⟨bound, h.type (h.explained.emits hs), ?_⟩⟩
  rw [h.written, entries, hs]
  exact List.mem_append_right _ List.mem_cons_self

theorem warrants {e : Written} (he : e ∈ entries l bound source) : (t.settle l bound isNew a).Warrants w e := by
  cases hs : source.isEmpty with
  | true =>
    rw [entries, hs] at he
    cases he
  | false =>
    rw [entries, hs] at he
    obtain rfl := List.mem_singleton.mp he
    have ha := h.type (h.explained.emits hs)
    refine ⟨record?_settle_self.trans (by rw [ha]), source, ?_, hs, rfl⟩
    rw [← ha]
    exact h.grows.explains h.explained

theorem faithful (hs : s.Faithful w R) : (t.settle l bound isNew a).Faithful w R := by
  refine ⟨h.standard hs.toStandard, fun {m} hr => ?_, fun {m x} hx => ?_, fun {m x} hr => ?_, fun {m b} hr => ?_,
    fun e he => ?_, fun {m r} hm => ?_⟩
  · by_cases hm : m = l
    · exact hm ▸ hs.reached (by rw [h.pending]; rfl)
    · rw [h.record?_of_ne hm] at hr
      exact hs.reached hr
  · by_cases hm : m = l
    · rw [hm, record?_settle_self]
      exact Or.inr rfl
    · rw [h.type?_of_ne hm] at hx
      exact (hs.recorded hx).imp_right h.grows.record
  · by_cases hm : m = l
    · rw [hm, record?_settle_self] at hr
      cases hr
    · rw [h.record?_of_ne hm] at hr
      exact hs.unfailed hr
  · by_cases hm : m = l
    · subst hm
      cases record?_settle_self.symm.trans hr
      exact h.vouches
    · rw [h.record?_of_ne hm] at hr
      refine (hs.resolved hr).grow h.grows ?_
      rw [h.written]
      exact List.subset_append_left _ _
  · rw [h.written] at he
    rcases List.mem_append.mp he with he | he
    -- A source that was there before is of a resolved location, so not of this one.
    · have hwarrants := hs.written e he
      have hel : e.location ≠ l := by
        rintro rfl
        cases h.pending.symm.trans hwarrants.1
      exact hwarrants.grow h.grows (h.record?_of_ne hel)
    · exact h.warrants he
  · have hm' : .answered m r ∈ s.journal := by
      rw [settle_frame, h.wrote] at hm
      rcases List.mem_cons.mp hm with hm | hm
      · cases hm
      · exact hm
    obtain ⟨b, hr, hb⟩ := hs.answered hm'
    exact ⟨b, hr, hb.grow h.grows⟩

end Settles

end Session

end SchemaBeans
