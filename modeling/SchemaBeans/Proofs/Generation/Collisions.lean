import SchemaBeans.Proofs.Generation.Release
import SchemaBeans.Proofs.Generation.Tolerance

/-! Why types are numbered.

The name of a type that is found for a location carries the lowest number that is free at that moment. So every lower
number was taken when the location became pending, and in a run in which all requests are answered it can be told by
whom, and what became of them (`Session.Collides`). A session remembers for each type that was found at which moment
that was (`Session.Traced`), and from there on names are given back only when their locations get other types
(`Session.Onward`). -/

namespace SchemaBeans

open Java (Source)
open SchemaBeans.Numbering (candidate)

namespace Session
variable {mappings : List Mapping} {H : Session → Prop} {s t u v : Session} {l m : Location} {x y bound : JavaType}
  {isNew : Bool} {a : Option JavaType} {r : Answer} {n : Nat}

/-! ### Requests that are answered -/

/-- What is there is kept, and no record is taken back. -/
structure Spares (s t : Session) : Prop extends Keeps s t where
  erased : ∀ {m}, .erased m ∈ t.journal → .erased m ∈ s.journal

namespace Spares

theorem steady : Steady Spares where
  trans := fun h₁ h₂ => ⟨h₁.toKeeps.trans h₂.toKeeps, fun he => h₁.erased (h₂.erased he)⟩
  quiet := fun hq => ⟨.of_quiet hq, fun he => by rwa [hq.journal] at he⟩
  write := by
    intro s l x text r t hw
    refine ⟨.write hw, fun he => ?_⟩
    rw [write_frame hw] at he
    exact he

theorem steady_if {P : Session → Prop} (hP : ∀ {s t}, Keeps s t → P s → P t) : Steady fun s t => P s → Spares s t where
  trans := fun h₁ h₂ hs => steady.trans (h₁ hs) (h₂ (hP (h₁ hs).toKeeps hs))
  quiet := fun hq _ => steady.quiet hq
  write := fun hw _ => steady.write hw

theorem of_marked (hb : Binds s l bound isNew t) (h : Spares (t.setRecord l .pending) u) (hkeeps : Keeps s v)
    {r : Record} (hj : v.journal = .recorded l r :: u.journal) : Spares s v := by
  refine ⟨hkeeps, fun he => ?_⟩
  rw [hj] at he
  have hu := h.erased ((List.mem_cons.mp he).resolve_left (by simp))
  rw [hb.journal_mark] at hu
  exact (List.mem_cons.mp hu).resolve_left (by simp)

section Ask
variable {ask : Location → Session → Outcome (Option JavaType)}
  (hask : ∀ {l s r t}, ask l s = some (r, t) →
    s.features.value Feature.ignoreMissingTypes = true ∨ s.generators = .standard ∧ (∃ a, r = .ok a) → Spares s t)
include hask

theorem produces (hg : s.generators = .standard) (h : Produces ask l bound s (.ok a) t) : Spares s t := by
  have hcalm := (steady_if fun (hk : Keeps _ _) (hg : _ = Generators.standard) => hk.generators.trans hg).toCalm
  have hrun : ∀ {node generator source u}, s.Dispatches l node generator →
      (generator (s.task l bound node)).run ask (s.opened l node) = some (.ok (a, source), u) → Spares s u := by
    intro node generator source u hd hrun
    obtain ⟨-, -, -, hspares, -⟩ :=
      hd.standard_yields hcalm (fun ha hstandard => hask ha (Or.inr ⟨hstandard, _, rfl⟩)) hg hrun
    exact hspares hg
  cases h with
  | given _ => exact steady.quiet (Quiet.refl _)
  | @reference _ target _ _ _ _ _ ha =>
    have hq := redirected_quiet s l target
    exact steady.trans (steady.quiet hq) (hask ha (Or.inr ⟨hq.generators.trans hg, a, rfl⟩))
  | null _ _ _ => exact steady.quiet (opened_quiet _ _ _)
  | silent _ hd hr _ => exact hrun hd hr
  | written _ hd hr _ _ hw => exact steady.trans (hrun hd hr) (steady.write hw)

end Ask

end Spares

theorem generateWithin_spares (h : generateWithin n l s = some (r, t))
    (hok : s.features.value Feature.ignoreMissingTypes = true ∨ s.generators = .standard ∧ ∃ a, r = .ok a) : Spares s t := by
  induction n generalizing l s r t with
  | zero => cases h
  | succ n ih =>
    obtain ⟨_, u, hn, hr, rfl⟩ := generateWithin_responds h
    cases hn
    have hkeeps := Keeps.responds generateWithin_keeps hr
    have htolerant : Steady fun s t => s.features.value Feature.ignoreMissingTypes = true → Spares s t :=
      Spares.steady_if fun hk hs => by rwa [hk.features]
    have hignoring : ∀ {m v b w}, generateWithin n m v = some (b, w) →
        v.features.value Feature.ignoreMissingTypes = true → Spares v w := fun ha hv => ih ha (Or.inl hv)
    -- The features are the same when the type has been produced.
    have hfeatures : ∀ {bound isNew t b v}, Binds s l bound isNew t →
        Produces (generateWithin n) l bound (t.setRecord l .pending) b v → v.features = s.features :=
      fun hb hp => (Keeps.steady.produces generateWithin_keeps hp).features.trans (hb.sameSetup _).features
    have hu : Spares s u := by
      cases hr with
      | resolved _ hq => exact Spares.steady.quiet hq
      | failed _ => exact Spares.steady.quiet (Quiet.refl s)
      | pending _ hq hs =>
        refine Spares.steady.trans (Spares.steady.quiet hq) ?_
        rw [← hq.features, ← hq.generators] at hok
        rcases hok with hfeature | ⟨hg, a, rfl⟩
        · exact htolerant.stands hignoring hs hfeature
        · cases hs with
          | own hw _ => exact Spares.steady.quiet (walk_quiet hw)
          | pending hw _ _ => exact Spares.steady.quiet (walk_quiet hw)
          | asked hw _ _ ha =>
            have hq' := walk_quiet hw
            exact Spares.steady.trans (Spares.steady.quiet hq') (ih ha (Or.inr ⟨hq'.generators.trans hg, _, rfl⟩))
      | settled _ hb hp =>
        refine .of_marked hb ?_ hkeeps journal_settle
        have hsame := hb.sameSetup .pending
        rcases hok with hfeature | ⟨hg, -⟩
        · exact htolerant.produces hignoring hp (by rwa [hsame.features])
        · exact Spares.produces ih (hsame.generators.trans hg) hp
      | @assumed bound _ _ _ _ _ _ hb hp hfeature hq =>
        rw [hfeatures hb hp, ← (hb.sameSetup .pending).features] at hfeature
        exact .of_marked hb (htolerant.produces hignoring hp hfeature) hkeeps (congrArg _ hq.journal)
      | forgotten _ hb hp hfeature =>
        rcases hok with hok | ⟨-, a, ha⟩
        · rw [hfeatures hb hp, hok] at hfeature
          cases hfeature
        · cases ha
    exact ⟨generateWithin_keeps h, fun he => hu.erased ((List.mem_cons.mp he).resolve_left (by simp))⟩

/-! ### Moving on -/

/-- From `s` to `t` finished locations keep their records, and what is bound to a location stays bound to it, unless it
    gets another type. -/
structure Onward (s t : Session) : Prop where
  finished : ∀ {l r a}, s.record? l = some r → r.answer? = some a → t.record? l = some r
  bound : ∀ {l x}, s.mappings.type? l = some x →
    t.mappings.type? l = some x ∨ ∃ a, t.record? l = some (.resolved a) ∧ a ≠ some x

namespace Onward

theorem same (hr : t.records = s.records) (hm : t.mappings = s.mappings) : Onward s t where
  finished := fun hl _ => by rwa [record?, hr]
  bound := fun hx => Or.inl (by rwa [hm])

theorem trans (h₁ : Onward s t) (h₂ : Onward t u) : Onward s u where
  finished := fun hr ha => h₂.finished (h₁.finished hr ha) ha
  bound := fun hx => by
    rcases h₁.bound hx with hx | ⟨a, hr, hne⟩
    · exact h₂.bound hx
    · exact Or.inr ⟨a, h₂.finished hr rfl, hne⟩

theorem mark (hnew : s.record? l = none) (hb : Binds s l bound isNew t) : Onward s (t.setRecord l .pending) := by
  refine ⟨fun {m r b} hr _ => ?_, fun {m x} hx => Or.inl ?_⟩
  · have hml : m ≠ l := by
      rintro rfl
      rw [hnew] at hr
      cases hr
    rw [hb.record?_mark_of_ne hml]
    exact hr
  · by_cases hml : m = l
    · subst hml
      cases hb with
      | held _ => exact hx
      | found hnone _ _ =>
        rw [hnone] at hx
        cases hx
    · exact (hb.type?_of_ne hml).trans hx

theorem finish (hl : s.record? l = some .pending) (hr : ∀ m, m ≠ l → t.record? m = s.record? m)
    (hm : ∀ m, m ≠ l → t.mappings.type? m = s.mappings.type? m)
    (hbound : ∀ x, s.mappings.type? l = some x →
      t.mappings.type? l = some x ∨ ∃ a, t.record? l = some (.resolved a) ∧ a ≠ some x) : Onward s t := by
  refine ⟨fun {m r b} hrecord hb => ?_, fun {m x} hx => ?_⟩
  · have hml : m ≠ l := by
      rintro rfl
      rw [hl] at hrecord
      cases hrecord
      cases hb
    rw [hr m hml]
    exact hrecord
  · by_cases hml : m = l
    · subst hml
      exact hbound x hx
    · rw [hm m hml]
      exact Or.inl hx

theorem settle (hl : s.record? l = some .pending) (hbound : s.mappings.type? l = some bound) :
    Onward s (s.settle l bound isNew a) := by
  refine finish hl (fun m hm => record?_settle_of_ne hm) (fun m hm => type?_settle_of_ne hm) fun x hx => ?_
  rw [hbound] at hx
  cases hx
  rw [type?_settle_self, record?_settle_self, hbound]
  by_cases ha : a = some bound
  · simp [ha]
  · exact Or.inr ⟨a, rfl, ha⟩

end Onward

/-! ### Moments at which types were found -/

/-- No record has been taken back. -/
def Clean (s : Session) : Prop := ∀ m, .erased m ∉ s.journal

theorem Clean.of_subset (h : Clean t) (hst : s.journal ⊆ t.journal) : Clean s := fun m hm => h m (hst hm)

/-- At this moment a location has become pending, and a type was found for it whose name carries the lowest number
    that was not taken. -/
structure Finds (mappings : List Mapping) (v : Session) (l : Location) (x : JavaType) : Prop where
  accounted : Accounted mappings v
  clean : Clean v
  now : v.journal.head? = some (.recorded l .pending)
  type : v.mappings.type? l = some x
  numbered : ∃ package k, x = .plain package (candidate (typeName l) "" k) ∧
    ∀ i, 1 ≤ i → i < k → (package, candidate (typeName l) "" i) ∈ v.names.taken

/-- Where a location without a source got its own type from: it was there already, or the location refers to
    another one. -/
inductive Sourceless (H : Session → Prop) (s : Session) (l : Location) (x : JavaType) : Prop
  | given : s.isGiven x = true → Sourceless H s l x
  | reference {v : Session} {node : Json} {target : Location} : H v → v.journal.head? = some (.recorded l .pending) →
      (v.resolve l).1 = .ok node → Reference.target? l node = .ok (some target) → Sourceless H s l x

theorem Sourceless.mono {H' : Session → Prop} (h : Sourceless H s l x) (hH : ∀ v, H v → H' v)
    (hk : ∀ x, s.known.contains x = true → t.known.contains x = true) : Sourceless H' t l x := by
  cases h with
  | given hg =>
    refine .given ?_
    rw [isGiven, Bool.or_eq_true] at hg ⊢
    exact hg.imp_right (hk x)
  | reference hv hnow hn ht => exact .reference (hH _ hv) hnow hn ht

/-- With the built-in generators, a location that gets the type found for it gets a source too, unless the type was there
    already or the location refers to another one. -/
theorem Produces.source (h : Produces (generateWithin n) l bound s (.ok (some bound)) t) (hs : H s)
    (hnow : s.journal.head? = some (.recorded l .pending)) (hbuiltin : s.generators = .standard)
    (hstring : s.known.contains .string = true) (hplain : bound.arguments = []) :
    (∃ e ∈ t.written, e.location = l ∧ e.type = bound) ∨ Sourceless H t l bound := by
  cases h with
  | given hg => exact Or.inr (.given hg)
  | reference _ hn ht _ => exact Or.inr (.reference hs hnow hn ht)
  | silent hg hd hrun hempty =>
    obtain ⟨-, x, hx, hbasic | ⟨target, y, -, rfl⟩⟩ := (hd.standard_ends hbuiltin hrun).silent hempty <;> cases hx
    -- The basic types are there already, and a list has an argument.
    · rcases hbasic with rfl | rfl | rfl | rfl
      · rw [isGiven, hstring, Bool.or_true] at hg
        cases hg
      · cases hg
      · cases hg
      · cases hg
    · cases hplain
  | written _ _ _ _ _ hw =>
    obtain ⟨_, _, _, rfl⟩ := write_ok hw
    exact Or.inl ⟨_, List.mem_append_right _ (List.mem_singleton_self _), rfl, rfl⟩

/-- The types that were found for locations, each with the moment it was found at, and what became of them, in a session
    in which no record has been taken back. -/
structure Traced (H : Session → Prop) (mappings : List Mapping) (s : Session) : Prop extends Accounted mappings s where
  clean : Clean s
  builtin : s.generators = .standard
  string : s.known.contains .string = true
  born : ∀ {l x}, Unmapped mappings l → s.mappings.type? l = some x → ∃ v, H v ∧ Finds mappings v l x ∧ Onward v s
  emitted : ∀ e ∈ s.written, Unmapped mappings e.location →
    ∃ v, H v ∧ Finds mappings v e.location e.type ∧ Onward v s
  ground : ∀ {l x}, Unmapped mappings l → s.record? l = some (.resolved (some x)) → s.mappings.type? l = some x →
    (∃ e ∈ s.written, e.location = l ∧ e.type = x) ∨ Sourceless H s l x

namespace Traced

theorem mono {H' : Session → Prop} (h : Traced H mappings s) (hH : ∀ v, H v → H' v) : Traced H' mappings s := by
  refine ⟨h.toAccounted, h.clean, h.builtin, h.string, fun hl hx => ?_, fun e he hl => ?_, fun hl hr hx => ?_⟩
  · obtain ⟨v, hv, hfinds⟩ := h.born hl hx
    exact ⟨v, hH v hv, hfinds⟩
  · obtain ⟨v, hv, hfinds⟩ := h.emitted e he hl
    exact ⟨v, hH v hv, hfinds⟩
  · exact (h.ground hl hr hx).imp_right fun hsource => hsource.mono hH fun _ hx => hx

theorem move (h : Traced H mappings s) (ht : Accounted mappings t) (hclean : Clean t) (hon : Onward s t)
    (hg : t.generators = s.generators) (hk : ∀ x, s.known.contains x = true → t.known.contains x = true)
    (hw : t.written = s.written)
    (hbound : ∀ {l x}, Unmapped mappings l → t.mappings.type? l = some x →
      s.mappings.type? l = some x ∨ H t ∧ Finds mappings t l x)
    (hrecord : ∀ {l x}, Unmapped mappings l → t.record? l = some (.resolved (some x)) → t.mappings.type? l = some x →
      s.record? l = some (.resolved (some x)) ∧ s.mappings.type? l = some x ∨
        (∃ e ∈ s.written, e.location = l ∧ e.type = x) ∨ Sourceless H t l x) : Traced H mappings t := by
  refine ⟨ht, hclean, hg.trans h.builtin, hk _ h.string, fun hl hx => ?_, fun e he hl => ?_, fun hl hr hx => ?_⟩
  · rcases hbound hl hx with hx | ⟨hH, hfinds⟩
    · obtain ⟨v, hv, hfinds, hvs⟩ := h.born hl hx
      exact ⟨v, hv, hfinds, hvs.trans hon⟩
    · exact ⟨t, hH, hfinds, .same rfl rfl⟩
  · rw [hw] at he
    obtain ⟨v, hv, hfinds, hvs⟩ := h.emitted e he hl
    exact ⟨v, hv, hfinds, hvs.trans hon⟩
  · rw [hw]
    rcases hrecord hl hr hx with ⟨hr, hx⟩ | hsource
    · exact (h.ground hl hr hx).imp_right fun hsource => hsource.mono (fun _ hv => hv) hk
    · exact hsource

theorem idle (h : Traced H mappings s) (ht : Accounted mappings t) (hclean : Clean t)
    (hg : t.generators = s.generators) (hk : ∀ x, s.known.contains x = true → t.known.contains x = true)
    (hw : t.written = s.written) (hr : t.records = s.records) (hm : t.mappings = s.mappings) : Traced H mappings t := by
  refine h.move ht hclean (.same hr hm) hg hk hw (fun _ hx => Or.inl (hm ▸ hx)) fun {l x} _ hrec hx => Or.inl ⟨?_, hm ▸ hx⟩
  rwa [record?, hr] at hrec

theorem mark (h : Traced H mappings s) (hnew : s.record? l = none) (hH : H (s.marked l)) : Traced H mappings (s.marked l) := by
  have hb := s.marked_binds l
  have hsame : SameSetup s (s.marked l) := hb.sameSetup .pending
  have haccounted : Accounted mappings (s.marked l) := h.toAccounted.mark hnew hb
  have hjournal : (s.marked l).journal = .recorded l .pending :: s.journal := hb.journal_mark _
  have hclean : Clean (s.marked l) := by
    intro m hm
    rw [hjournal] at hm
    exact h.clean m ((List.mem_cons.mp hm).resolve_left (by simp))
  refine h.move haccounted hclean (.mark hnew hb) hsame.generators (fun x hx => by rwa [hsame.known]) (hb.written_mark _)
    (fun {m x} hm hx => ?_) fun {m x} hm hr hx => Or.inl ?_
  · by_cases hml : m = l
    · subst hml
      have hnumbered : ∀ {bound isNew t}, Binds s m bound isNew t → ∃ package k,
          bound = .plain package (candidate (typeName m) "" k) ∧
            ∀ i, 1 ≤ i → i < k → (package, candidate (typeName m) "" i) ∈ t.names.taken := by
        intro bound isNew t hb
        cases hb with
        -- A location that failed before would have been erased.
        | held hheld => exact absurd (h.retried hm hnew hheld) (h.clean m)
        | found _ _ hunique =>
          obtain ⟨k, hk, -, htaken⟩ := Names.unique_numbered hunique
          exact ⟨_, k, hk, fun i hlo hi => (Names.unique_taken hunique).mpr (Or.inr (htaken i hlo hi))⟩
      cases hb.type?_self.symm.trans hx
      obtain ⟨package, k, hk, htaken⟩ := hnumbered hb
      exact Or.inr ⟨hH, haccounted, hclean, by rw [hjournal]; rfl, hb.type?_self, package, k, hk, htaken⟩
    · exact Or.inl ((hb.type?_of_ne hml).symm.trans hx)
  -- A location with a record other than pending is not the one that is marked.
  · have hml : m ≠ l := by
      rintro rfl
      cases record?_setRecord_self.symm.trans hr
    exact ⟨(hb.record?_mark_of_ne hml).symm.trans hr, (hb.type?_of_ne hml).symm.trans hx⟩

theorem write {text : String} {r : Except Error Unit} (h : Traced H mappings s) (hx : s.mappings.type? l = some x)
    (hw : s.write l x text = (r, t)) : Traced H mappings t := by
  have haccounted := h.toAccounted.write hw
  cases r with
  | error =>
    obtain ⟨_, _, _, rfl⟩ := write_error hw
    exact h.idle haccounted h.clean rfl (fun _ hx => hx) rfl rfl rfl
  | ok =>
    obtain ⟨_, _, _, rfl⟩ := write_ok hw
    have hon : ∀ {v output files log written}, Onward v s → Onward v { s with output, files, log, written } :=
      fun hvs => hvs.trans (.same rfl rfl)
    refine ⟨haccounted, h.clean, h.builtin, h.string, fun hl hy => ?_, fun e he hl => ?_, fun hl hr hy => ?_⟩
    · obtain ⟨v, hv, hfinds, hvs⟩ := h.born hl hy
      exact ⟨v, hv, hfinds, hon hvs⟩
    · rcases List.mem_append.mp he with he | he
      · obtain ⟨v, hv, hfinds, hvs⟩ := h.emitted e he hl
        exact ⟨v, hv, hfinds, hon hvs⟩
      · obtain rfl := List.mem_singleton.mp he
        obtain ⟨v, hv, hfinds, hvs⟩ := h.born hl hx
        exact ⟨v, hv, hfinds, hon hvs⟩
    · rcases h.ground hl hr hy with ⟨e, he, hsource⟩ | hsource
      · exact Or.inl ⟨e, List.mem_append_left _ he, hsource⟩
      · exact Or.inr (hsource.mono (fun _ hv => hv) fun _ hx => hx)

theorem settle (hs : Traced H mappings s) (hnew : s.record? l = none) (hb : Binds s l bound isNew t)
    (hH : H (t.setRecord l .pending)) (hp : Produces (generateWithin n) l bound (t.setRecord l .pending) (.ok a) u)
    (hu : Traced H mappings u) : Traced H mappings (u.settle l bound isNew a) := by
  have hbound := Accounted.type?_produced hb hp
  have hpending := hp.along.record record?_setRecord_self
  have hsame := hb.sameSetup .pending
  have hclean : Clean (u.settle l bound isNew a) := by
    intro m hm
    rw [journal_settle] at hm
    exact hu.clean m ((List.mem_cons.mp hm).resolve_left (by simp))
  refine hu.move (Accounted.settle hs.toAccounted hnew hb hp hu.toAccounted rfl) hclean (.settle hpending hbound)
    settle_sameSetup.generators (fun x hx => by rwa [settle_sameSetup.known]) written_settle
    (fun _ hx => Or.inl (type?_of_settle hx)) fun {m x} hm hr hx => ?_
  have hx' := type?_of_settle hx
  by_cases hml : m = l
  · subst hml
    cases record?_settle_self.symm.trans hr
    cases hbound.symm.trans hx'
    -- The moment at which the location became pending is the one that its source is traced to.
    have hnow : (t.setRecord m .pending).journal.head? = some (.recorded m .pending) := rfl
    have hsource := hp.source hH hnow (hsame.generators.trans hs.builtin) (by rw [hsame.known]; exact hs.string)
      (hu.plain hm hx')
    exact Or.inr (hsource.imp_right fun h => h.mono (fun _ hv => hv) fun x hx => by rwa [settle_sameSetup.known])
  · rw [record?_settle_of_ne hml] at hr
    exact Or.inl ⟨hr, hx'⟩

theorem assume (hb : Binds s l bound isNew t) (hp : Produces (generateWithin n) l bound (t.setRecord l .pending) r u)
    (hu : Traced H mappings u) : Traced H mappings (u.setRecord l (.failed bound)) := by
  have hpending := hp.along.record record?_setRecord_self
  have hclean : Clean (u.setRecord l (.failed bound)) :=
    fun m hm => hu.clean m ((List.mem_cons.mp hm).resolve_left (by simp))
  have hon : Onward u (u.setRecord l (.failed bound)) :=
    .finish hpending (fun m hm => record?_setRecord_of_ne hm) (fun _ _ => rfl) fun _ hx => Or.inl hx
  refine hu.move (Accounted.assume hb hp hu.toAccounted) hclean hon rfl (fun _ hx => hx) rfl (fun _ hx => Or.inl hx)
    fun {m x} _ hr hx => Or.inl ⟨?_, hx⟩
  have hml : m ≠ l := by
    rintro rfl
    cases record?_setRecord_self.symm.trans hr
  exact (record?_setRecord_of_ne hml).symm.trans hr

/-- As long as no record has been taken back, the moments of a request are traced. -/
theorem isKept : Kept H fun s => Clean s → Traced H mappings s where
  quiet := fun {s t} h hq hclean => by
    have hs := h (hclean.of_subset fun _ he => by rwa [hq.journal])
    exact hs.idle (hs.toAccounted.quiet hq) hclean hq.generators (fun x hx => by rwa [hq.known]) hq.written hq.records
      hq.mappings
  mark := fun {s l} h hnew hH hclean => by
    have hjournal : (s.marked l).journal = .recorded l .pending :: s.journal := (s.marked_binds l).journal_mark _
    exact (h (hclean.of_subset fun _ he => by rw [hjournal]; exact List.mem_cons_of_mem _ he)).mark hnew hH
  write := fun {n s l bound node generator a source text t r u} h hl hbound hd hrun halong hfull hw hclean => by
    have ht : Traced H mappings t := by
      refine h (hclean.of_subset ?_)
      exact journal_steady.write hw
    obtain ⟨rfl, -⟩ := (hd.standard_ends (halong.generators.symm.trans ht.builtin) hrun).written hfull
    exact ht.write ((halong.type hl).trans hbound) hw
  settle := fun {n s l bound isNew t a u} h hnew hb hH hp hu _ hclean => by
    have hcu : Clean u := hclean.of_subset fun _ he => by rw [journal_settle]; exact List.mem_cons_of_mem _ he
    have hcs : Clean s := hcu.of_subset fun _ he => hp.along.journal.subset (by rw [hb.journal_mark]; exact List.mem_cons_of_mem _ he)
    exact settle (h hcs) hnew hb hH hp (hu hcu)
  assume := fun _ _ hb hp hu _ hclean => assume hb hp (hu (hclean.of_subset (List.subset_cons_self _ _)))
  forget := fun {n s l bound isNew t e u} _ _ _ _ _ _ hclean => absurd List.mem_cons_self (hclean l)
  reply := fun h hclean => by
    have hs := h (hclean.of_subset (List.subset_cons_self _ _))
    exact hs.idle (hs.toAccounted.reply _) hclean rfl (fun _ hx => hx) rfl rfl rfl

end Traced

/-! ### Runs without failures -/

/-- Runs in which every request is answered. -/
def Answered : List Mapping → List Session → Session → Prop := Runs fun _ r => ∃ a, r = .ok a

section Answered
variable {path : List Session}

theorem Arranged.traced (h : Arranged mappings s) (hj : s.journal = []) (hg : s.generators = .standard)
    (hstring : s.known.contains .string = true) : Traced H mappings s := by
  obtain ⟨hm, -, hr⟩ := h.unasked hj
  have hclean : Clean s := by
    intro m he
    rw [hj] at he
    cases he
  refine ⟨h.accounted, hclean, hg, hstring, fun hl hx => ?_, fun e he _ => ?_, fun _ hrecord _ => ?_⟩
  · rw [hm, hl] at hx
    cases hx
  · obtain ⟨a, ha⟩ := (h.reachable.orderly.written e he).resolve_left (by simp)
    rw [hr] at ha
    cases ha
  · rw [hr] at hrecord
    cases hrecord

theorem Answered.traced (h : Answered mappings path s) : Traced (· ∈ path) mappings s := by
  induction h with
  | new catalog output files =>
    have hstring : KnownTypes.standard.contains .string = true := by decide +kernel
    exact (Arranged.new catalog output files).traced rfl rfl hstring
  | addMapping mapping h hj ih => exact (h.addMapping mapping hj).arranged.traced hj ih.builtin ih.string
  | adjust h hadjusts ih =>
    have haccounted := (h.adjust hadjusts).arranged.accounted
    obtain ⟨hframe, hknown⟩ := hadjusts.frame
    refine ih.idle haccounted ?_ ?_ hknown ?_ ?_ ?_
    · rw [hframe]
      exact ih.clean
    · rw [hframe]
    · rw [hframe]
    · rw [hframe]
    · rw [hframe]
  | @request mappings path s t n l _ h hrequest hok ih =>
    obtain ⟨a, rfl⟩ := hok
    have hstart : Traced (· ∈ path ++ moments n l s) mappings s := ih.mono fun v hv => List.mem_append_left _ hv
    -- The request is answered, so it has taken no record back.
    have hspares := generateWithin_spares hrequest (Or.inr ⟨ih.builtin, a, rfl⟩)
    have hclean : Clean t := fun m he => ih.clean m (hspares.erased he)
    exact (Traced.isKept.request hrequest (fun v hv => List.mem_append_right _ hv) fun _ => hstart).1 hclean

/-- Why a location was not given a name, in a run that passed through the sessions of a path and ended in `t`. -/
inductive Collides (mappings : List Mapping) (path : List Session) (t : Session) (l : Location) (name : String × String) :
    Prop
  /-- It is the name of a mapping. -/
  | mapped : name ∈ Mapping.names mappings → Collides mappings path t l name
  /-- A source was written under it for another location. -/
  | emitted {e : Written} : e ∈ t.written → e.location ≠ l → e.type.identity = name → Collides mappings path t l name
  /-- Another location still had it when this one became pending, and got another type later. -/
  | provisional {v : Session} {m : Location} {x : JavaType} {a : Option JavaType} : v ∈ path →
      v.journal.head? = some (.recorded l .pending) → m ≠ l → v.record? m = some .pending →
      v.mappings.type? m = some x → x.identity = name → t.record? m = some (.resolved a) → a ≠ some x →
      Collides mappings path t l name
  /-- A location that failed is taken to have it. -/
  | assumed {m : Location} {x : JavaType} : m ≠ l → t.record? m = some (.failed x) → x.identity = name →
      Collides mappings path t l name
  /-- A location got it without a source: the type was there already, or the location refers to another one, which
      was answered with it. -/
  | sourceless {m : Location} {x : JavaType} : m ≠ l → t.record? m = some (.resolved (some x)) →
      t.mappings.type? m = some x → x.identity = name → Sourceless (· ∈ path) t m x → Collides mappings path t l name

/-- A name that was taken when a type was found for a location is accounted for at the end of the run. -/
theorem Traced.collides (h : Traced (· ∈ path) mappings t) (hidle : ∀ m, t.record? m ≠ some .pending) (hv : v ∈ path)
    (hfinds : Finds mappings v l y) (hvt : Onward v t) {name : String × String} (htaken : name ∈ v.names.taken)
    (hne : name ≠ y.identity) : Collides mappings path t l name := by
  obtain hmapped | ⟨m, x, hx, rfl⟩ := hfinds.accounted.held htaken
  · exact .mapped hmapped
  have hml : m ≠ l := by
    rintro rfl
    cases hfinds.type.symm.trans hx
    exact hne rfl
  -- A name that is mapped is in use from the start; any other one was found for its location.
  cases hm : (Mappings.ofList mappings).type? m with
  | some z =>
    cases (hfinds.accounted.mapped hm).symm.trans hx
    exact .mapped (Mappings.mem_names_of_type? hm)
  | none =>
    rcases hvt.bound hx with hx' | ⟨a, ha, hne'⟩
    · -- The type is bound to the location until the end.
      rcases hr : t.record? m with _ | _ | a | z
      · exact absurd (h.retried hm hr hx') (h.clean m)
      · exact absurd hr (hidle m)
      · obtain rfl := h.settled hm hr (h.clean m) hx'
        rcases h.ground hm hr hx' with ⟨e, he, rfl, rfl⟩ | hsource
        · exact .emitted he hml rfl
        · exact .sourceless hml hr hx' rfl hsource
      · cases (h.assumed hr).symm.trans hx'
        exact .assumed hml hr rfl
    · rcases hr : v.record? m with _ | _ | b | z
      · exact absurd (hfinds.accounted.retried hm hr hx) (hfinds.clean m)
      · exact .provisional hv hfinds.now hml hr hx rfl ha hne'
      · -- A location that was finished before had the type that was found for it.
        cases (hvt.finished hr rfl).symm.trans ha
        exact absurd (hfinds.accounted.settled hm hr (hfinds.clean m) hx) hne'
      · cases (hvt.finished hr rfl).symm.trans ha

/-- In every run with the built-in generators in which all requests are answered, a source for a location without a
    mapping is written under the name of the location with a number, and each lower number collides: its name is that of
    a mapping or of a source of another location, it was the name of a location that was pending at the time and got
    another type later, or it is held by a location that has no source. -/
theorem lower_numbers_collide (h : Answered mappings path t) :
    ∀ e ∈ t.written, (Mappings.ofList mappings).type? e.location = none →
      (∃ k, e.type.name = candidate (typeName e.location) "" k) ∧
      ∀ k, e.type.name = candidate (typeName e.location) "" k → ∀ i, 1 ≤ i → i < k →
        Collides mappings path t e.location (e.type.package, candidate (typeName e.location) "" i) := by
  intro e he hl
  have htraced := h.traced
  obtain ⟨v, hv, hfinds, hvt⟩ := htraced.emitted e he hl
  obtain ⟨package, k, hk, htaken⟩ := hfinds.numbered
  have hpackage : e.type.package = package := by rw [hk]; rfl
  have hname : e.type.name = candidate (typeName e.location) "" k := by rw [hk]; rfl
  refine ⟨⟨k, hname⟩, fun k' hk' i hlo hi => ?_⟩
  cases Numbering.candidate_injective (hname.symm.trans hk')
  rw [hpackage]
  refine htraced.collides h.arranged.reachable.idle hv hfinds hvt (htaken i hlo hi) fun heq => ?_
  have hsame : candidate (typeName e.location) "" i = e.type.name := congrArg Prod.snd heq
  rw [hname] at hsame
  have := Numbering.candidate_injective hsame
  omega

end Answered

end Session

/-! ### Kits -/

/-- A document with three schemas for parts: a list of parts of the last kind, and two objects. -/
def kitDocument : Uri × Json :=
  (⟨"urn", "", none, none, none, .rootless "kit", none, none⟩,
    .object [("definitions", .object [("part", .object
        [("type", .string "array"), ("items", .object [("$ref", .string "#/properties/part")])])]),
      ("$defs", .object [("part", .object [("type", .string "object")])]),
      ("properties", .object [("part", .object [("type", .string "object")])])])

/-- A part in one of the groups of schemas. -/
def kitPart (group : String) : Location := ⟨kitDocument.1, "/" ++ group ++ "/part"⟩

namespace Session

theorem kit_run : ∃ path t e, Answered [] path t ∧ e ∈ t.written ∧ e.location = kitPart "properties" ∧
    e.type = .plain "anonymous" (candidate (typeName e.location) "" 3) ∧
    t.written.map (fun e => e.type.identity) = [("anonymous", "Part"), ("anonymous", "Part3")] := by
  have hrun : ((generateWithin 6 (kitPart "$defs")
      (Session.new (.preloaded [kitDocument]) (.memory .empty []) ⟨"/", []⟩)).bind fun r =>
        generateWithin 6 (kitPart "definitions") r.2).map (fun r => (r.1.toBool, r.2.written.map fun e => (e.location, e.type))) =
      some (true, [(kitPart "$defs", .plain "anonymous" "Part"), (kitPart "properties", .plain "anonymous" "Part3")]) := by
    decide +kernel
  have hok : (generateWithin 6 (kitPart "$defs")
      (Session.new (.preloaded [kitDocument]) (.memory .empty []) ⟨"/", []⟩)).map (fun r => r.1.toBool) = some true := by
    decide +kernel
  have hname : candidate (typeName (kitPart "properties")) "" 3 = "Part3" := by decide +kernel
  obtain ⟨⟨b, t⟩, hbind, hpair⟩ := Option.map_eq_some_iff.mp hrun
  obtain ⟨⟨a, u⟩, hobject, hlist⟩ := Option.bind_eq_some_iff.mp hbind
  rw [hobject] at hok
  obtain ⟨hb, hwritten⟩ := Prod.mk.inj hpair
  have hmem : (kitPart "properties", JavaType.plain "anonymous" "Part3") ∈ t.written.map (fun e => (e.location, e.type)) := by
    rw [hwritten]
    simp
  obtain ⟨e, he, heq⟩ := List.mem_map.mp hmem
  obtain ⟨hlocation, htype⟩ := Prod.mk.inj heq
  have hidentities := congrArg (List.map fun p => p.2.identity) hwritten
  rw [List.map_map] at hidentities
  cases a with
  | error e => cases hok
  | ok x =>
    cases b with
    | error e => cases hb
    | ok y =>
      have hanswered : Answered [] _ t := ((Runs.new _ _ _).request hobject ⟨x, rfl⟩).request hlist ⟨y, rfl⟩
      exact ⟨_, t, e, hanswered, he, hlocation, by rw [htype, hlocation, hname], hidentities⟩

/-- A part is given the number three: its name is that of a source, and with the number two it was that of the list
    from which the part was asked for. -/
theorem lower_numbers_collide_kit : ∃ path t, Answered [] path t ∧ ∃ e ∈ t.written, e.location = kitPart "properties" ∧
    e.type.name = candidate (typeName e.location) "" 3 ∧ Collides [] path t (kitPart "properties") ("anonymous", "Part") ∧
    Collides [] path t (kitPart "properties") ("anonymous", "Part2") := by
  obtain ⟨path, t, e, hrun, he, hlocation, htype, -⟩ := kit_run
  have hname : e.type.name = candidate (typeName e.location) "" 3 := by rw [htype]; rfl
  have hcollides := (lower_numbers_collide hrun e he rfl).2 3 hname
  rw [htype, hlocation] at hcollides
  have hfirst : candidate (typeName (kitPart "properties")) "" 1 = "Part" := by decide +kernel
  have hsecond : candidate (typeName (kitPart "properties")) "" 2 = "Part2" := by decide +kernel
  refine ⟨path, t, hrun, e, he, hlocation, hname, ?_, ?_⟩
  · exact hfirst ▸ hcollides 1 (by omega) (by omega)
  · exact hsecond ▸ hcollides 2 (by omega) (by omega)

/-- The part has the number three although in the end no mapping and no source has its name with the number two. -/
theorem number_of_pending_list_skipped : ∃ path t, Answered [] path t ∧ ∃ e ∈ t.written,
    e.location = kitPart "properties" ∧ e.type = .plain "anonymous" (candidate (typeName e.location) "" 3) ∧
    ("anonymous", candidate (typeName e.location) "" 2) ∉ Mapping.names [] ∧
    ∀ e' ∈ t.written, e'.type.identity ≠ ("anonymous", candidate (typeName e.location) "" 2) := by
  obtain ⟨path, t, e, hrun, he, hlocation, htype, hidentities⟩ := kit_run
  refine ⟨path, t, hrun, e, he, hlocation, htype, by simp [Mapping.names], fun e' he' heq => ?_⟩
  have hmem : e'.type.identity ∈ [("anonymous", "Part"), ("anonymous", "Part3")] := by
    rw [← hidentities]
    exact List.mem_map_of_mem he'
  rw [heq, hlocation] at hmem
  exact absurd hmem (by decide +kernel)

end Session

end SchemaBeans
