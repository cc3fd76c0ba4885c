import SchemaBeans.Proofs.Generation.Replacement
import SchemaBeans.Proofs.Generation.Retention

/-! Circles through arrays.

A request for a location on a circle goes along the circle until it is back, where it is answered with the type that
was found for the location. If there is an array on the circle, the location itself is then answered with a list of
that type, and gives the name back. So names that were handed out are lost exactly on the circles through arrays. Such a
name is found for another location exactly if one off the circle is called the same. -/

namespace SchemaBeans

open Java (Source)
open SchemaBeans.Numbering (candidate)

namespace Setup
variable {w : Setup} {l m : Location}

/-! ### Once around a circle -/

/-- A location that leads to itself past another one never comes to the other one. -/
theorem not_reached_of_past (h : Relation.TransGen (fun p q => w.Hop p q ∧ q ≠ l) m m) :
    ¬Relation.ReflTransGen w.Hop m l := by
  have hround : ∀ {q}, Relation.ReflTransGen w.Hop m q →
      Relation.TransGen (fun p q => w.Hop p q ∧ q ≠ l) q m ∧ q ≠ l := by
    intro q hq
    induction hq with
    | refl =>
      obtain ⟨_, -, -, hne⟩ := Relation.TransGen.tail'_iff.mp h
      exact ⟨h, hne⟩
    | tail _ hop ih =>
      obtain ⟨q', ⟨hop', hne⟩, hrest⟩ := Relation.TransGen.head'_iff.mp ih.1
      obtain rfl := hop.unique hop'
      exact ⟨.trans_right hrest h, hne⟩
  exact fun hl => (hround hl).2 rfl

/-- All circles through a location are alike: if references lead back to it, no circle passes through an array. -/
theorem listFree_of_references (hr : w.Refers l m) (hback : w.Leads m 0 l) : w.ListFree l := by
  have hround : ∀ {q p n}, w.Leads q n p → (∃ r, w.Refers q r ∧ w.Leads r 0 l) → n = 0 := by
    intro q p n hlead
    induction hlead with
    | here => exact fun _ => rfl
    | reference hq _ ih =>
      rintro ⟨r, hr', hback'⟩
      obtain rfl := hq.unique hr'
      cases hback' with
      | here => exact ih ⟨m, hr, hback⟩
      | reference hnext hback' => exact ih ⟨_, hnext, hback'⟩
    | items hq _ _ =>
      rintro ⟨r, hr', -⟩
      exact absurd hq hr'.not_lists
  exact fun n hn => hround hn ⟨m, hr, hback⟩

end Setup

namespace Session
variable {w : Setup} {s t u : Session} {l m : Location} {x bound : JavaType}

/-! ### Hops -/

section Hop
variable {ask : Location → Session → Outcome (Option JavaType)} {r : Answer} (hs : s.Standard w .empty)
  (hbound : s.mappings.type? l = some bound)
include hs hbound

theorem Produces.of_lists (h : Produces ask l bound s r t) (hl : w.Lists l m) : ∃ v b, Quiet s v ∧
    ask m v = some (b, t) ∧ productionRequests ask l bound s = [(m, v)] ∧
    ∀ y, b = .ok (some y) → r = .ok (some y.listOf) := by
  obtain ⟨node, fields, hschema, hk, hi, ht⟩ := hl
  -- The generator for arrays asks for the items, and for nothing else.
  have hplan : ∀ {node' generator q u}, s.isGiven bound = false → s.Dispatches l node' generator →
      (generator (s.task l bound node')).run ask (s.opened l node') = some (q, u) →
      ∃ v b, Quiet s v ∧ ask m v = some (b, u) ∧ productionRequests ask l bound s = [(m, v)] ∧
        ((∃ y, b = .ok (some y) ∧ q = .ok (some y.listOf, .empty)) ∨ ∃ e, q = .error e ∧ ∀ y, b ≠ .ok (some y)) := by
    intro node' generator q u hg hd hrun
    obtain ⟨kind, hschema', hk', hgen⟩ := hs.dispatches hbound hg hd
    cases hschema.unique hschema'
    cases hk.symm.trans hk'
    cases hgen
    have harray := @Generator.array_eq (s.task l bound node) fields m hi ht
    have hrequests : productionRequests ask l bound s = _ := productionRequests_dispatch hg hd
    have hq := opened_quiet s l node
    rw [harray] at hrun hrequests
    rcases hask : ask m (s.opened l node) with _ | ⟨e | _ | y, v⟩ <;>
      simp only [Plan.require, Plan.run, Plan.requests, hask] at hrun hrequests <;> cases hrun
    · exact ⟨_, _, hq, hask, hrequests, Or.inr ⟨_, rfl, fun _ h => by cases h⟩⟩
    · exact ⟨_, _, hq, hask, hrequests, Or.inr ⟨_, rfl, fun _ h => by cases h⟩⟩
    · exact ⟨_, _, hq, hask, hrequests, Or.inl ⟨y, rfl, rfl⟩⟩
  have hreads : s.isGiven bound = false → ∀ node', s.Reads l node' → node' = node := fun hg node' h =>
    (hs.schema hbound hg h).unique hschema
  cases h with
  | given hg => exact absurd ((hs.isGiven_iff hbound).mp hg) (hschema.unpinned _)
  | refused _ hstuck _ => exact absurd rfl ((hs.stuck hstuck).2.2 node "array" _ hschema hk)
  | reference hg hn ht' _ => exact absurd hschema (hs.refers hbound hg hn ht').not_schema
  | null hg hr hk' =>
    cases hreads hg _ hr
    cases hk.symm.trans hk'
  | failed hg hd hrun =>
    obtain ⟨v, b, hq, ha, hrequests, ⟨y, -, heq⟩ | ⟨e, -, hb⟩⟩ := hplan hg hd hrun
    · cases heq
    · exact ⟨v, b, hq, ha, hrequests, fun y hy => absurd hy (hb y)⟩
  | silent hg hd hrun _ =>
    obtain ⟨v, b, hq, ha, hrequests, ⟨y, rfl, heq⟩ | ⟨e, heq, -⟩⟩ := hplan hg hd hrun <;> cases heq
    refine ⟨v, _, hq, ha, hrequests, fun y' hy => ?_⟩
    cases hy
    rfl
  | unwritten hg hd hrun hfull _ _ =>
    obtain ⟨v, b, -, -, -, ⟨y, -, heq⟩ | ⟨e, heq, -⟩⟩ := hplan hg hd hrun <;> cases heq
    cases hfull
  | written hg hd hrun hfull _ _ =>
    obtain ⟨v, b, -, -, -, ⟨y, -, heq⟩ | ⟨e, heq, -⟩⟩ := hplan hg hd hrun <;> cases heq
    cases hfull

/-- A location that hops on asks for what it hops to, and nothing else. -/
theorem Produces.of_hop (h : Produces ask l bound s r t) (hop : w.Hop l m) : ∃ v b, Quiet s v ∧
    ask m v = some (b, t) ∧ productionRequests ask l bound s = [(m, v)] ∧
    ∀ y, b = .ok (some y) → (w.Refers l m ∧ r = .ok (some y)) ∨ (w.Lists l m ∧ r = .ok (some y.listOf)) := by
  rcases hop with hr | hl
  · have hg : s.isGiven bound = false :=
      Bool.eq_false_iff.mpr fun hg => hr.unpinned _ ((hs.isGiven_iff hbound).mp hg)
    obtain ⟨node, hn, ht⟩ := hr.target
    exact ⟨_, r, redirected_quiet s l m, h.of_refers hs hbound hr, productionRequests_reference hg (hs.resolve hn) ht,
      fun y hy => Or.inl ⟨hr, hy⟩⟩
  · obtain ⟨v, b, hq, ha, hrequests, hlist⟩ := h.of_lists hs hbound hl
    exact ⟨v, b, hq, ha, hrequests, fun y hy => Or.inr ⟨hl, hlist y hy⟩⟩

end Hop

/-! ### Around a circle -/

/-- The record and the type of a location stay as they are. -/
def LeavesAlone (s t : Session) (q : Location) : Prop :=
  t.record? q = s.record? q ∧ t.mappings.type? q = s.mappings.type? q

namespace LeavesAlone
variable {q : Location} {isNew : Bool}

theorem trans (h₁ : LeavesAlone s t q) (h₂ : LeavesAlone t u q) : LeavesAlone s u q :=
  ⟨h₂.1.trans h₁.1, h₂.2.trans h₁.2⟩

theorem of_quiet (hq : Quiet s t) : LeavesAlone s t q := ⟨hq.record? q, by rw [hq.mappings]⟩

theorem mark (hb : Binds s l bound isNew t) (hql : q ≠ l) : LeavesAlone s (t.setRecord l .pending) q :=
  ⟨hb.record?_mark_of_ne hql, hb.type?_of_ne hql⟩

theorem settle {a : Option JavaType} (hql : q ≠ l) : LeavesAlone s (s.settle l bound isNew a) q :=
  ⟨record?_settle_of_ne hql, type?_settle_of_ne hql⟩

end LeavesAlone

/-- A request has come to `m` on the circle of a pending location. Nothing is recorded but the locations that were
    passed on the way, which lead to `m` without coming to the pending location in between. -/
structure Rounds (w : Setup) (l : Location) (x : JavaType) (s : Session) (m : Location) : Prop
    extends Standard w .empty s where
  waits : Waits w s m
  records : ∀ {p r}, s.record? p = some r → r = .pending
  pending : s.record? l = some .pending
  bound : s.mappings.type? l = some x
  cycle : Relation.TransGen w.Hop l l
  back : Relation.ReflTransGen w.Hop m l
  past : ∀ {p}, s.record? p = some .pending → p ≠ l → m ≠ l → Relation.TransGen (fun p q => w.Hop p q ∧ q ≠ l) p m

namespace Rounds
variable {m' : Location} {isNew : Bool}

theorem start (hs : s.Standard w .empty) (hblank : ∀ p, s.record? p = none) (hcycle : Relation.TransGen w.Hop l l)
    (hb : Binds s l bound isNew t) (hop : w.Hop l m) (hq : Quiet (t.setRecord l .pending) u) : Rounds w l bound u m := by
  have hidle : ∀ p, s.record? p ≠ some .pending := by simp [hblank]
  -- Nothing was recorded before, so the location itself is the only pending one.
  have honly : ∀ {p r}, u.record? p = some r → p = l ∧ r = .pending := by
    intro p r hp
    rw [hq.record?] at hp
    by_cases hpl : p = l
    · subst hpl
      cases record?_setRecord_self.symm.trans hp
      exact ⟨rfl, rfl⟩
    · rw [hb.record?_mark_of_ne hpl, hblank] at hp
      cases hp
  obtain ⟨_, hop', hback⟩ := Relation.TransGen.head'_iff.mp hcycle
  obtain rfl := hop.unique hop'
  exact
    { toStandard := (hs.mark hb .pending).quiet hq
      waits := ((Waits.idle hidle).mark (hblank l) hb (Or.inr hop)).keep (.of_quiet hq)
      records := fun hp => (honly hp).2
      pending := (hq.record? l).trans record?_setRecord_self
      bound := by rw [hq.mappings]; exact hb.type?_self
      cycle := hcycle
      back := hback
      past := fun hp hpl _ => absurd (honly hp).1 hpl }

theorem pass (h : Rounds w l x s m) (hnew : s.record? m = none) (hb : Binds s m bound isNew t) (hop : w.Hop m m')
    (hq : Quiet (t.setRecord m .pending) u) : Rounds w l x u m' := by
  have hml : m ≠ l := by
    rintro rfl
    cases hnew.symm.trans h.pending
  obtain ⟨_, hop', hback⟩ := (Relation.ReflTransGen.cases_head h.back).resolve_left hml
  obtain rfl := hop.unique hop'
  refine ⟨(h.toStandard.mark hb .pending).quiet hq, (h.waits.mark hnew hb (Or.inr hop)).keep (.of_quiet hq),
    fun {p r} hp => ?_, ?_, ?_, h.cycle, hback, fun {p} hp hpl hml' => ?_⟩
  · by_contra hne
    exact hne (h.records (hb.record?_of_mark ((hq.record? p).symm.trans hp) hne))
  · rw [hq.record?, hb.record?_mark_of_ne hml.symm, h.pending]
  · rw [hq.mappings]
    exact (hb.type?_of_ne hml.symm).trans h.bound
  · rw [hq.record?] at hp
    by_cases hpm : p = m
    · subst hpm
      exact .single ⟨hop, hml'⟩
    · rw [hb.record?_mark_of_ne hpm] at hp
      exact (h.past hp hpl hml).tail ⟨hop, hml'⟩

/-- The first location that was passed before is the one that the request started from, so it is answered with the
    type of that one, inside a list for every array on the way. No other locations are passed. -/
theorem generates {n : Nat} {r : Answer} (h : Rounds w l x s m) (hg : generateWithin n m s = some (r, t)) :
    ∃ k, w.Leads m k l ∧ r = .ok (some (nested k x)) ∧ .answered l (.ok (some x)) ∈ t.journal ∧
      ∀ q, ¬Relation.ReflTransGen w.Hop m q → LeavesAlone s t q := by
  induction n generalizing m s r t with
  | zero => cases hg
  | succ n ih =>
    obtain ⟨_, u, hn, hr, rfl⟩ := generateWithin_responds hg
    cases hn
    have hnext : ∀ {bound isNew v r' u}, s.record? m = none → Binds s m bound isNew v →
        Produces (generateWithin n) m bound (v.setRecord m .pending) r' u →
        ∃ k, w.Leads m k l ∧ r' = .ok (some (nested k x)) ∧ .answered l (.ok (some x)) ∈ u.journal ∧
          ∀ q, ¬Relation.ReflTransGen w.Hop m q → q ≠ m ∧ LeavesAlone s u q := by
      intro bound isNew v r' u hnew hb hp
      have hml : m ≠ l := by
        rintro rfl
        cases hnew.symm.trans h.pending
      -- The location is not back at its start, so there is a hop that goes on around the circle.
      obtain ⟨m', hop, -⟩ := (Relation.ReflTransGen.cases_head h.back).resolve_left hml
      obtain ⟨v', b, hq, ha, -, hanswer⟩ := hp.of_hop (h.toStandard.mark hb .pending) hb.type?_self hop
      obtain ⟨k, hlead, rfl, hsaid, halone⟩ := ih (h.pass hnew hb hop hq) ha
      have hothers : ∀ q, ¬Relation.ReflTransGen w.Hop m q → q ≠ m ∧ LeavesAlone s u q := by
        intro q hmq
        have hqm : q ≠ m := by
          rintro rfl
          exact hmq .refl
        exact ⟨hqm, ((LeavesAlone.mark hb hqm).trans (.of_quiet hq)).trans (halone q fun hq => hmq (hq.head hop))⟩
      rcases hanswer _ rfl with ⟨hr, rfl⟩ | ⟨hlist, rfl⟩
      · exact ⟨k, .reference hr hlead, rfl, hsaid, hothers⟩
      · exact ⟨k + 1, .items hlist hlead, by rw [nested_succ], hsaid, hothers⟩
    cases hr with
    | resolved hr _ => cases h.records hr
    | failed hr => cases h.records hr
    | pending hr hq hst =>
      by_cases hml : m = l
      · subst hml
        -- The walk comes back to its start, where an object would have ended it.
        obtain ⟨hq', ⟨rfl, -⟩ | ⟨target, _, _, -, hobject, hlead, -⟩⟩ := hst.waiting (h.toStandard.quiet hq).documents
          (h.waits.keep (.of_quiet hq)) ((hq.record? m).trans hr)
        · rw [hq.mappings, h.bound]
          have halone : ∀ q, LeavesAlone s u q := fun q => .of_quiet (hq.trans hq')
          exact ⟨0, .here m, rfl, List.mem_cons_self, fun q _ => halone q⟩
        · exact absurd h.cycle (hobject.not_circular hlead.hops .refl)
      · exact absurd h.back (Setup.not_reached_of_past (h.past hr hml hml))
    | settled hnew hb hp =>
      obtain ⟨k, hlead, hr, hsaid, hothers⟩ := hnext hnew hb hp
      refine ⟨k, hlead, hr, List.mem_cons_of_mem _ ?_, fun q hmq => (hothers q hmq).2.trans (.settle (hothers q hmq).1)⟩
      rw [journal_settle]
      exact List.mem_cons_of_mem _ hsaid
    | assumed hnew hb hp _ _ =>
      obtain ⟨k, -, hr, -⟩ := hnext hnew hb hp
      cases hr
    | forgotten hnew hb hp _ =>
      obtain ⟨k, -, hr, -⟩ := hnext hnew hb hp
      cases hr

end Rounds

/-! ### Names that are lost -/

/-- Types that were found for locations, and occur in answers given by `v`, are bound to these locations in `u`, where
    no other location has a type of such a name. -/
def KeepsNames (w : Setup) (v u : Session) : Prop :=
  ∀ m y x l, .answered m (.ok (some y)) ∈ v.journal → x.OccursIn y → w.configured.type? l = none →
    v.mappings.type? l = some x →
      u.mappings.type? l = some x ∧ ∀ p z, u.mappings.type? p = some z → z.identity = x.identity → p = l

theorem mem_moments {n : Nat} {r : Answer} (h : generateWithin n l s = some (r, t)) : t ∈ moments n l s := by
  cases n with
  | zero => cases h
  | succ n => simp [moments, h]

theorem produce_circle {n : Nat} {r : Answer} (hs : s.Standard w .empty) (hblank : ∀ p, s.record? p = none)
    (hlist : ¬w.ListFree l) (hp : Produces (generateWithin n) l (s.bindType l).1 (s.marked l) r u) :
    ∃ m v k, u ∈ moments n m v ∧ productionRequests (generateWithin n) l (s.bindType l).1 (s.marked l) = [(m, v)] ∧
      r = .ok (some (nested k (s.bindType l).1).listOf) ∧ .answered l (.ok (some (s.bindType l).1)) ∈ u.journal ∧
      ∀ q, ¬Relation.TransGen w.Hop l q → q ≠ l ∧ LeavesAlone s u q := by
  have hb := s.marked_binds l
  have hmarked : (s.marked l).Standard w .empty := hs.mark hb .pending
  have hcycle := Setup.circular_of_not_listFree hlist
  obtain ⟨m, hop, -⟩ := Relation.TransGen.head'_iff.mp hcycle
  obtain ⟨v, b, hq, ha, hrequests, hanswer⟩ := hp.of_hop hmarked hb.type?_self hop
  obtain ⟨k, hlead, rfl, hsaid, halone⟩ := (Rounds.start hs hblank hcycle hb hop hq).generates ha
  have hothers : ∀ q, ¬Relation.TransGen w.Hop l q → q ≠ l ∧ LeavesAlone s u q := by
    intro q hlq
    have hql : q ≠ l := by
      rintro rfl
      exact hlq hcycle
    exact ⟨hql, ((LeavesAlone.mark hb hql).trans (.of_quiet hq)).trans (halone q fun hq => hlq (.head' hop hq))⟩
  rcases hanswer _ rfl with ⟨hr, rfl⟩ | ⟨-, rfl⟩
  · cases k with
    | zero => exact absurd (Setup.listFree_of_references hr hlead) hlist
    | succ k => exact ⟨m, v, k, mem_moments ha, hrequests, by rw [nested_succ], hsaid, hothers⟩
  · exact ⟨m, v, k, mem_moments ha, hrequests, rfl, hsaid, hothers⟩

/-- A location on a circle through an array gives back the type that was found for it, after it was handed out, and so
    frees its name. Locations off the circle are left alone. -/
theorem circle_gives_back {n : Nat} {r : Answer} (hs : s.Standard w .empty) (hblank : ∀ p, s.record? p = none)
    (hnone : s.mappings.type? l = none) (hlist : ¬w.ListFree l) (h : generateWithin n l s = some (r, t)) :
    (∃ path, moments n l s = path ++ [t] ∧ ∃ u ∈ path, .answered l (.ok (some (s.bindType l).1)) ∈ u.journal ∧
      u.mappings.type? l = some (s.bindType l).1) ∧
    t.mappings.type? l = none ∧ (s.bindType l).1.identity ∉ t.names.taken ∧
    ∀ q, ¬Relation.TransGen w.Hop l q → LeavesAlone s t q := by
  cases n with
  | zero => cases h
  | succ n =>
    have hb := s.marked_binds l
    have hisNew : (s.bindType l).2.1 = true := by
      unfold bindType
      rw [hnone]
    have hdefault := (hs.mark hb .pending).default (hs.unmapped hnone) hb.type?_self
    have hmoments := h
    unfold generateWithin at h
    split at h
    · cases h
    · rename_i v hrespond
      cases h
      obtain ⟨produced, u, hp, hend⟩ := respond_of_new (hblank l) hrespond
      have hproduces := produce_produces hp
      obtain ⟨m, v', k, hu, hrequests, rfl, hsaid, hothers⟩ := produce_circle hs hblank hlist hproduces
      have hbound : u.mappings.type? l = some (s.bindType l).1 :=
        ((Keeps.steady.produces generateWithin_keeps hproduces).type record?_setRecord_self).trans hb.type?_self
      refine ⟨?_, ?_⟩
      -- The type has been handed out at a moment of the request, and the last moment is later.
      · have hmem : u ∈ (requests (generateWithin n) l s).flatMap fun q => moments n q.1 q.2 := by
          rw [requests, hblank]
          simpa [hrequests] using hu
        refine ⟨_, by rw [moments, hmoments]; rfl, u, List.mem_append_right _ hmem, hsaid, hbound⟩
      · rcases hend with ⟨a, ha, rfl, rfl⟩ | ⟨e, he, -⟩
        · cases ha
          -- A list is no type of the default package.
          have hne : some (nested k (s.bindType l).1).listOf ≠ some (s.bindType l).1 := by
            intro heq
            rw [← Option.some.inj heq] at hdefault
            exact JavaType.package_listOf_ne hdefault
          have hrelease : ((s.bindType l).2.1 && some (nested k (s.bindType l).1).listOf ≠ some (s.bindType l).1) = true := by
            simpa [hisNew] using hne
          refine ⟨?_, ?_, fun q hlq => (hothers q hlq).2.trans (.settle (hothers q hlq).1)⟩
          · exact type?_settle_self.trans (if_pos hrelease)
          · have hnames : (u.settle l (s.bindType l).1 (s.bindType l).2.1
                (some (nested k (s.bindType l).1).listOf)).names = u.names.release (s.bindType l).1 := by
              simp only [Session.settle, hrelease, ↓reduceIte]
              rfl
            show _ ∉ (Session.settle _ _ _ _ _).names.taken
            rw [hnames, Names.mem_release]
            exact fun h => h.2 rfl
        · cases he

theorem momentsAll_retains {requests asked : List Location} (hapart : w.configured.Apart) (hforeign : w.Foreign)
    (hspared : w.Spared (w.Reached requests)) (hasked : ∀ l ∈ asked, w.Reached requests l) (output : Output)
    (files : Files) : ∃ t, Threads (Retains w (w.Reached requests)) (w.start .empty output files)
      ((w.start .empty output files).momentsAll asked) t :=
  momentsAll_guarded hforeign hspared (fun hm hm' => hm.needs hm') hasked (.start hapart output files)
    (by simp [setup_record?])

/-- Let a type that was found for a location occur in an answer, to a request of a run or to one that a generator
    made. At every later moment the type is bound to the location and no other location has a type of that name, in
    all runs with the built-in generators and default features that ask for what given locations lead to, exactly if
    none of the locations they lead to lies on a circle through an array, those with mapped types apart. What becomes
    pending or is answered in such a run does so at one of the moments. -/
theorem names_kept_iff (hapart : w.configured.Apart) (hforeign : w.Foreign) (requests : List Location) (output : Output)
    (files : Files) :
    ((∀ asked : List Location, (∀ l ∈ asked, w.Reached requests l) →
        ((w.start .empty output files).momentsAll asked).Pairwise (KeepsNames w)) ↔
      ∀ l, w.Reached requests l → w.configured.type? l = none → w.ListFree l) ∧
    ((∀ l, w.Reached requests l → w.configured.type? l = none → w.ListFree l) →
      ∀ asked : List Location, (∀ l ∈ asked, w.Reached requests l) →
        ∀ u ∈ (w.start .empty output files).momentsAll asked, ∀ e ∈ u.journal, e.isMoment = true →
          ∃ v ∈ (w.start .empty output files).momentsAll asked, v.journal.head? = some e) := by
  have hrun : (∀ l, w.Reached requests l → w.configured.type? l = none → w.ListFree l) → ∀ asked : List Location,
      (∀ l ∈ asked, w.Reached requests l) → ∃ t, Threads (Retains w (w.Reached requests)) (w.start .empty output files)
        ((w.start .empty output files).momentsAll asked) t := fun hcircles asked hasked =>
    momentsAll_retains hapart hforeign (fun hl _ hc _ hlist => absurd (hcircles _ hl hc) hlist) hasked output files
  refine ⟨⟨fun hkept l hl hc => ?_, fun hcircles asked hasked => ?_⟩, fun hcircles asked hasked u hu e he hmoment => ?_⟩
  · by_contra hlist
    have hstart := Standard.start w .empty output files
    have hnone : (w.start .empty output files).mappings.type? l = none := by rw [setup_mappings, hc]
    obtain ⟨⟨r, t⟩, hr⟩ := Option.isSome_iff_exists.mp (generate_isSome hstart.documents hstart.generators l)
    obtain ⟨⟨path, hmoments, u, hu, hsaid, hbound⟩, hlost, -⟩ :=
      circle_gives_back hstart (setup_record? w .empty output files) hnone hlist hr
    have hone := hkept [l] (by simpa using hl)
    rw [momentsAll, hmoments] at hone
    obtain ⟨-, -, hlast⟩ := List.pairwise_append.mp (List.pairwise_append.mp hone).1
    obtain ⟨htype, -⟩ := hlast u hu t (by simp) l _ _ l hsaid .self hc hbound
    cases hlost.symm.trans htype
  · obtain ⟨t, hpath⟩ := hrun hcircles asked hasked
    refine hpath.order.imp fun {v u} hvu m y x l he hx hc hl => ?_
    have hl' := hvu.bound hc (fun hreached => hcircles l hreached hc) ⟨m, y, he, hx⟩ hl
    exact ⟨hl', fun p z hp hz => hvu.apart hp hl' hz⟩
  · obtain ⟨t, hpath⟩ := hrun hcircles asked hasked
    refine (hpath.told hmoment ((hpath.finish u hu).journal he)).resolve_left ?_
    rw [Setup.start, setup_frame]
    simp [new]

/-! ### Names that are found again -/

/-- No location has a type of a name that was found for another one and occurs in an answer given by `v`. -/
def SparesNames (w : Setup) (v u : Session) : Prop :=
  ∀ m y x l, .answered m (.ok (some y)) ∈ v.journal → x.OccursIn y → w.configured.type? l = none →
    v.mappings.type? l = some x → ∀ p z, u.mappings.type? p = some z → z.identity = x.identity → p = l

/-- The names in use before the first request are those of the mappings, and they stay in use. -/
theorem start_taken {output : Output} {files : Files} {n : Nat} {r : Answer}
    (h : generateWithin n l (w.start .empty output files) = some (r, t)) :
    (w.start .empty output files).names.taken ⊆ t.names.taken := by
  have hstart : w.start .empty output files =
      Start.session ⟨.preloaded w.documents, output, files, .empty, .standard, .standard⟩ w.mappings :=
    start_empty w output files
  intro name hname
  rw [hstart] at h hname
  exact (Accounted.isKept.request h (fun _ _ => trivial) accounted_start).1.reserved ((taken_start name).mp hname)

theorem marked_mem_moments {n : Nat} {r : Answer} (h : generateWithin n l s = some (r, t)) (hnew : s.record? l = none) :
    s.marked l ∈ moments n l s := by
  cases n with
  | zero => cases h
  | succ n => simp [moments, hnew]

/-- Two locations of one name are asked for in turn. The first lies on a circle through an array, the second off it, so
    it is found the type that the first has handed out and given back. -/
theorem circle_name_found_again {p : Location} (hs : s.Standard w .empty) (hblank : ∀ q, s.record? q = none)
    (htaken : ∀ {n r t}, generateWithin n l s = some (r, t) → s.names.taken ⊆ t.names.taken)
    (hl : s.mappings.type? l = none) (hp : s.mappings.type? p = none) (hlist : ¬w.ListFree l)
    (hname : typeName l = typeName p) (hoff : ¬Relation.TransGen w.Hop l p) :
    ¬(s.momentsAll [l, p]).Pairwise (SparesNames w) := by
  intro hspares
  obtain ⟨⟨r, t⟩, hr⟩ := Option.isSome_iff_exists.mp (generate_isSome hs.documents hs.generators l)
  have hkeeps := generateWithin_keeps hr
  obtain ⟨⟨r', t'⟩, hr'⟩ := Option.isSome_iff_exists.mp
    (generate_isSome (hkeeps.documents _ hs.documents) (hkeeps.generators.trans hs.generators) p)
  obtain ⟨⟨path, hmoments, u, hu, hsaid, hbound⟩, -, hfree, halone⟩ := circle_gives_back hs hblank hl hlist hr
  obtain ⟨hrecord, htype⟩ := halone p hoff
  -- The name is free again, and every lower number is in use as before.
  have hfound : (t.bindType p).1 = (s.bindType l).1 := by
    have hmore : ∀ n, n ∈ t.names.taken ↔ n ∈ s.names.taken ∨ n ∈ t.names.taken :=
      fun n => ⟨Or.inr, fun h => h.elim (fun hn => htaken hr hn) id⟩
    rw [bindType_type, hl] at hfree
    rw [bindType_type, bindType_type, htype, hp, hl, ← hname, hkeeps.features]
    exact Names.unique_of_more hmore hfree
  have hmarked := marked_mem_moments hr' (hrecord.trans (hblank p))
  simp only [momentsAll, hr, hr', hmoments] at hspares
  obtain ⟨-, -, hcross⟩ := List.pairwise_append.mp hspares
  have hpl : p = l := hcross u (List.mem_append_left _ hu) _ (List.mem_append_left _ hmarked) l _ _ l hsaid .self
    (hs.unmapped hl) hbound p _ (t.marked_type? p) (by rw [hfound])
  subst hpl
  exact hoff (Setup.circular_of_not_listFree hlist)

/-- The exact condition for the names alone. Where numbers after names make no names of others, a name that was found
    for a location and occurs in an answer is given to no other location at any later moment, in all runs that ask for
    what given locations lead to, exactly if every location on a circle through an array shares its name only with
    locations on the circle, those with mapped types apart. -/
theorem names_spared_iff (hapart : w.configured.Apart) (hforeign : w.Foreign) (requests : List Location) (output : Output)
    (files : Files) (hnumbers : ∀ l p i j, w.Reached requests l → w.Reached requests p → w.configured.type? l = none →
      w.configured.type? p = none → ¬w.ListFree l → candidate (typeName l) "" i = candidate (typeName p) "" j →
        typeName l = typeName p) :
    (∀ asked : List Location, (∀ l ∈ asked, w.Reached requests l) →
        ((w.start .empty output files).momentsAll asked).Pairwise (SparesNames w)) ↔
      ∀ l p, w.Reached requests l → w.Reached requests p → w.configured.type? l = none → w.configured.type? p = none →
        ¬w.ListFree l → typeName l = typeName p → Relation.TransGen w.Hop l p := by
  constructor
  · intro hspares l p hl hp hc hcp hlist hname
    by_contra hoff
    have hunmapped : ∀ {q}, w.configured.type? q = none → (w.start .empty output files).mappings.type? q = none := by
      intro q hq
      rw [setup_mappings, hq]
    exact circle_name_found_again (.start w .empty output files) (setup_record? w .empty output files) start_taken
      (hunmapped hc) (hunmapped hcp) hlist hname hoff (hspares [l, p] (by simpa using ⟨hl, hp⟩))
  · intro hcircles asked hasked
    have hspared : w.Spared (w.Reached requests) := fun hl hp hc hcp hlist hcandidate =>
      hcircles _ _ hl hp hc hcp hlist (hnumbers _ _ _ _ hl hp hc hcp hlist hcandidate)
    obtain ⟨t, hpath⟩ := momentsAll_retains hapart hforeign hspared hasked output files
    refine hpath.order.imp_of_mem fun {v u} hv _ hvu m y x l he hx hc hl p z hz hid => ?_
    rcases hvu.spared hz with hold | hnew
    · exact (hpath.start v hv).apart hold hl hid
    · exact absurd hid.symm (hnew x ⟨m, y, he, hx⟩)

/-- Where locations have different names, and names that do not end in digits, no name in an answer is ever given to
    another location, circles through arrays or not. -/
theorem names_spared_of_names_differ (hapart : w.configured.Apart) (hforeign : w.Foreign) (requests : List Location)
    (hletters : ∀ l, w.Reached requests l → w.configured.type? l = none →
      ∀ c, (typeName l).toList.getLast? = some c → c.isDigit = false)
    (hdiffer : ∀ l p, w.Reached requests l → w.Reached requests p → w.configured.type? l = none →
      w.configured.type? p = none → typeName l = typeName p → l = p)
    (output : Output) (files : Files) {asked : List Location} (hasked : ∀ l ∈ asked, w.Reached requests l) :
    ((w.start .empty output files).momentsAll asked).Pairwise (SparesNames w) := by
  refine (names_spared_iff hapart hforeign requests output files fun l p _ _ hl hp hc hcp _ => ?_).mpr ?_ asked hasked
  · exact Numbering.eq_of_candidate_eq (hletters l hl hc) (hletters p hp hcp)
  · intro l p hl hp hc hcp hlist hname
    obtain rfl := hdiffer l p hl hp hc hcp hname
    exact Setup.circular_of_not_listFree hlist

end Session

/-! ### Names that are used twice -/

namespace Setup

/-- A document with two schemas called nested: a given one, and an object. -/
def nestedDocument (schema : Json) : Uri × Json :=
  (⟨"urn", "", none, none, none, .rootless "nested", none, none⟩,
    .object [("definitions", .object [("nested", schema)]),
      ("$defs", .object [("nested", .object [("type", .string "object")])])])

def nestedIn (group : String) : Location := ⟨(nestedDocument .null).1, "/" ++ group ++ "/nested"⟩

def nested (schema : Json) : Setup := ⟨[nestedDocument schema], []⟩

/-- A schema that refers to the first of the two. -/
def toNested : Json := .object [("$ref", .string "#/definitions/nested")]

def listNested : Json := .object [("type", .string "array"), ("items", toNested)]

theorem nested_refers : (nested toNested).Refers (nestedIn "definitions") (nestedIn "definitions") :=
  ⟨fun _ hp => (by cases hp.1), toNested, rfl, rfl⟩

theorem nested_object {m : Location} : ¬(nested toNested).Needs (nestedIn "$defs") m := by
  have hn : (nestedIn "$defs").node? (nested toNested).documents = some (.object [("type", .string "object")]) := rfl
  rintro (⟨-, node, hnode, ht⟩ | ⟨node, hs, ha⟩)
  · cases hn.symm.trans hnode
    cases ht
  · cases hn.symm.trans hs.found
    cases ha with
    | items hk => exact absurd hk (by decide)
    | property _ hf => cases hf
    | additional _ hf => cases hf

theorem nested_reached {l : Location} (h : (nested toNested).Reached [nestedIn "definitions", nestedIn "$defs"] l) :
    l = nestedIn "definitions" ∨ l = nestedIn "$defs" := by
  obtain ⟨r, hr, hl⟩ := h
  induction hl with
  | refl => simpa using hr
  | tail _ hm ih =>
    rcases ih with rfl | rfl
    · rcases hm with hm | ⟨_, hs, -⟩
      · exact Or.inl (hm.unique nested_refers)
      · exact absurd hs nested_refers.not_schema
    · exact absurd hm nested_object

theorem nested_listFree {l : Location} (h : (nested toNested).Reached [nestedIn "definitions", nestedIn "$defs"] l) :
    (nested toNested).ListFree l := by
  have hleads : ∀ {l n m}, (nested toNested).Reached [nestedIn "definitions", nestedIn "$defs"] l →
      (nested toNested).Leads l n m → n = 0 := by
    intro l n m hl hlead
    induction hlead with
    | here => rfl
    | reference hr _ ih => exact ih (hl.needs (Or.inl hr))
    | items hlist _ _ =>
      rcases nested_reached hl with rfl | rfl
      · exact absurd hlist nested_refers.not_lists
      · exact absurd hlist.needs nested_object
  exact fun n hn => hleads h hn

end Setup

namespace Session

open Setup (nestedIn toNested listNested)

/-- The moments of a run in which the two schemas called nested are asked for. -/
def nestedRun (schema : Json) : List Session :=
  ((Setup.nested schema).start .empty (.memory .empty []) ⟨"/", []⟩).momentsAll [nestedIn "definitions", nestedIn "$defs"]

/-- The type that the first of them is found. -/
def nestedType : JavaType := .plain "anonymous" "Nested"

/-- A reference to itself keeps the type it was found, since that is the answer it gets while it is pending, and the
    object is found another one. -/
theorem names_kept_iff_nested :
    (nestedRun toNested).map (fun v => (v.mappings.type? (nestedIn "definitions"), v.mappings.type? (nestedIn "$defs"))) =
      [(none, none)] ++ List.replicate 5 (some nestedType, none) ++
        List.replicate 2 (some nestedType, some (.plain "anonymous" "Nested2")) ∧
    (nestedRun toNested).Pairwise (KeepsNames (Setup.nested toNested)) := by
  have hunmapped : ∀ {l t}, (Setup.nested toNested).configured.type? l ≠ some t := by
    intro l t hl
    cases hl
  obtain ⟨hiff, -⟩ := names_kept_iff (fun hl => absurd hl hunmapped) (fun hl => absurd hl hunmapped)
    [nestedIn "definitions", nestedIn "$defs"] (.memory .empty []) ⟨"/", []⟩
  exact ⟨by decide +kernel, hiff.mpr (fun l hl _ => Setup.nested_listFree hl) _ fun l hl => ⟨l, hl, .refl⟩⟩

/-- The location that an event tells the type of, if it does. -/
def answered? : Event → Option (Location × Option JavaType)
  | .answered l (.ok a) => some (l, a)
  | _ => none

/-- An array of itself is answered with the type it was found while it is pending, and gives the name back when it
    turns out to be a list. The object is then found the same type. -/
theorem nested_name_given_twice : ∃ (i j : Nat) (v u : Session), i < j ∧
    (nestedRun listNested)[i]? = some v ∧
    (nestedRun listNested)[j]? = some u ∧
    .answered (nestedIn "definitions") (.ok (some nestedType)) ∈ v.journal ∧
    v.mappings.type? (nestedIn "definitions") = some nestedType ∧
    u.mappings.type? (nestedIn "$defs") = some nestedType := by
  have hfirst : ((nestedRun listNested)[3]?).map (fun v =>
      (v.journal.findSome? answered?, v.mappings.type? (nestedIn "definitions"))) =
      some (some (nestedIn "definitions", some nestedType), some nestedType) := by decide +kernel
  have hsecond : ((nestedRun listNested)[6]?).map (fun v =>
      v.mappings.type? (nestedIn "$defs")) = some (some nestedType) := by decide +kernel
  obtain ⟨v, hv, hobserved⟩ := Option.map_eq_some_iff.mp hfirst
  obtain ⟨u, hu, hgiven⟩ := Option.map_eq_some_iff.mp hsecond
  obtain ⟨hanswer, hbound⟩ := Prod.mk.inj hobserved
  obtain ⟨e, he, heq⟩ := List.exists_of_findSome?_eq_some hanswer
  refine ⟨3, 6, v, u, by decide, hv, hu, ?_, hbound, hgiven⟩
  unfold answered? at heq
  split at heq <;> cases heq
  exact he

/-- Asked for alone, however often, the array of itself gives a name back that nothing else is found. -/
theorem nested_names_spared (count : Nat) :
    (((Setup.nested listNested).start .empty (.memory .empty []) ⟨"/", []⟩).momentsAll
      (List.replicate count (nestedIn "definitions"))).Pairwise (SparesNames (Setup.nested listNested)) := by
  have hunmapped : ∀ {l t}, (Setup.nested listNested).configured.type? l ≠ some t := by
    intro l t hl
    cases hl
  have hround : (Setup.nested listNested).Hop (nestedIn "definitions") (nestedIn "definitions") :=
    Or.inr ⟨listNested, _, ⟨fun _ hp => (by cases hp.1), rfl, rfl, rfl⟩, rfl, rfl, rfl⟩
  have hreached : ∀ {l}, (Setup.nested listNested).Reached [nestedIn "definitions"] l → l = nestedIn "definitions" := by
    rintro l ⟨r, hr, hl⟩
    induction hl with
    | refl => simpa using hr
    | tail _ hm ih =>
      subst ih
      exact (Setup.hop_of_needs (.single hround) hm).unique hround
  refine names_spared_of_names_differ (fun hl => absurd hl hunmapped) (fun hl => absurd hl hunmapped)
    [nestedIn "definitions"] ?_ ?_ _ _ ?_
  · intro l hl _ c hc
    have hlast : (typeName (nestedIn "definitions")).toList.getLast? = some 'd' := by decide +kernel
    rw [hreached hl, hlast] at hc
    cases hc
    rfl
  · intro l p hl hp _ _ _
    rw [hreached hl, hreached hp]
  · intro l hl
    rw [List.eq_of_mem_replicate hl]
    exact ⟨_, List.mem_singleton_self _, .refl⟩

end Session

end SchemaBeans
