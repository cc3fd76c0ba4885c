import Mathlib.Data.List.Forall2
import SchemaBeans.Proofs.Generation.Frames
import SchemaBeans.Proofs.Generation.Invariants

/-! Sessions with more names in use.

Two sessions may differ in nothing but this: in the first one some more names are in use (`Session.Surplus`). The
session with fewer names leads the way. As long as no type that is bound in it has one of the names that are in use in
the other one only (`Session.Avoids`), both find the same types, give the same answers and pass through the same
sessions, these names aside (`Session.Surplus.generateWithin`). -/

namespace SchemaBeans

open Java (Source)

namespace Mappings

theorem get?_put (store : Mappings) (mapping : Mapping) (l : Location) :
    (store.put mapping).get? l = if l = mapping.target then some mapping else store.get? l := by
  by_cases hl : l = mapping.target
  · subst hl
    simp [get?, put]
  · simp [get?, put, Table.get?_put_of_ne _ _ hl, hl]

theorem type?_eq_bind (store : Mappings) (l : Location) : store.type? l = (store.get? l).bind Mapping.type := by
  rw [type?, get?]
  cases store.entries.get? l <;> rfl

end Mappings

namespace Session

/-- The sessions are the same but for the names in use. What is mapped may be kept in another order. -/
structure Agree (s s' : Session) : Prop where
  same : s' = s.amended s.features s'.names s'.mappings
  get? : ∀ l, s'.mappings.get? l = s.mappings.get? l

/-- The sessions agree, and the names in use in the first one are those of the second one and `extra`. -/
structure Surplus (extra : List (String × String)) (s s' : Session) : Prop extends Agree s s' where
  taken : ∀ n, n ∈ s.names.taken ↔ n ∈ s'.names.taken ∨ n ∈ extra

/-- No type that is bound to a location has one of the given names. -/
def Avoids (extra : List (String × String)) (s : Session) : Prop :=
  ∀ l x, s.mappings.type? l = some x → x.identity ∉ extra

/-- Both actions run out of bounds, or they have the same answer and end in such sessions. -/
def Meet {α : Type} (extra : List (String × String)) : Outcome α → Outcome α → Prop :=
  Option.Rel fun r r' => r'.1 = r.1 ∧ Surplus extra r.2 r'.2

/-- The requests are for the same locations and are made in such sessions. -/
def Parallel (extra : List (String × String)) : List (Location × Session) → List (Location × Session) → Prop :=
  List.Forall₂ fun q q' => q'.1 = q.1 ∧ Surplus extra q.2 q'.2

variable {extra : List (String × String)} {s s' t t' : Session} {l : Location} {n : Nat}

namespace Meet
variable {α : Type} {o o' : Outcome α} {r : Except Error α}

theorem ends (h : Surplus extra t t') : Meet extra (some (r, t)) (some (r, t')) := .some ⟨rfl, h⟩

theorem cases (h : Meet extra o o') : (o = none ∧ o' = none) ∨
    ∃ r t t', o = some (r, t) ∧ o' = some (r, t') ∧ Surplus extra t t' := by
  rcases h with ⟨heq, ht⟩ | _
  · exact Or.inr ⟨_, _, _, rfl, by rw [← heq], ht⟩
  · exact Or.inl ⟨rfl, rfl⟩

end Meet

namespace Agree
variable (h : Agree s s')
include h

theorem features : s'.features = s.features := by rw [h.same]; rfl

theorem generators : s'.generators = s.generators := by rw [h.same]; rfl

theorem records : s'.records = s.records := by rw [h.same]; rfl

theorem written : s'.written = s.written := by rw [h.same]; rfl

theorem output : s'.output = s.output := by rw [h.same]; rfl

theorem depth : s'.depth = s.depth := by rw [h.same]; rfl

theorem record? (l : Location) : s'.record? l = s.record? l := by rw [Session.record?, h.records, Session.record?]

theorem isPending (l : Location) : s'.isPending l = s.isPending l := by
  rw [Session.isPending, h.record?, Session.isPending]

theorem isGiven (x : JavaType) : s'.isGiven x = s.isGiven x := by rw [h.same]; rfl

theorem task (l : Location) (x : JavaType) (node : Json) : s'.task l x node = s.task l x node := by
  rw [Session.task, h.features, Session.task]

theorem resolve (l : Location) : (s'.resolve l).1 = (s.resolve l).1 := by rw [h.same]; rfl

theorem type? (l : Location) : s'.mappings.type? l = s.mappings.type? l := by
  rw [Mappings.type?_eq_bind, h.get?, ← Mappings.type?_eq_bind]

end Agree

namespace Surplus

/-! ### Steps -/

/-- A step that leaves features, names and mappings alone is made in both sessions. -/
theorem step (h : Surplus extra s s') (hf : t.features = s.features) (hn : t.names = s.names)
    (hm : t.mappings = s.mappings) : Surplus extra t (t.amended s.features s'.names s'.mappings) := by
  obtain ⟨⟨-, hget⟩, htaken⟩ := h
  rw [← hm] at hget
  rw [← hn] at htaken
  exact ⟨⟨by rw [← hf]; rfl, hget⟩, htaken⟩

section Steps
variable (h : Surplus extra s s')
include h

theorem say (level : LogLevel) (message : String) : Surplus extra (s.say level message) (s'.say level message) := by
  rw [h.same]
  exact h.step rfl rfl rfl

theorem note (entry : LogEntry) : Surplus extra (s.note entry) (s'.note entry) := by
  rw [h.same]
  exact h.step rfl rfl rfl

theorem setRecord (l : Location) (r : Record) : Surplus extra (s.setRecord l r) (s'.setRecord l r) := by
  rw [h.same]
  exact h.step rfl rfl rfl

theorem eraseRecord (l : Location) : Surplus extra (s.eraseRecord l) (s'.eraseRecord l) := by
  rw [h.same]
  exact h.step rfl rfl rfl

theorem reply (l : Location) (a : Answer) : Surplus extra (s.reply l a) (s'.reply l a) := by
  rw [h.same]
  exact h.step rfl rfl rfl

theorem read (l : Location) : Surplus extra (s.resolve l).2 (s'.resolve l).2 := by
  rw [h.same]
  exact h.step rfl rfl rfl

theorem redirected (l target : Location) : Surplus extra (s.redirected l target) (s'.redirected l target) :=
  (h.read l).say _ _

theorem opened (l : Location) (node : Json) : Surplus extra (s.opened l node) (s'.opened l node) := by
  unfold Session.opened
  split
  · exact h.read l
  · exact (h.read l).say _ _

theorem walk {fuel : Nat} {seen : List Location} {lists : Nat} {r : Except Error Walk}
    (hw : walk fuel seen lists l s = (r, t)) : ∃ t', Session.walk fuel seen lists l s' = (r, t') ∧ Surplus extra t t' := by
  have hq := walk_quiet hw
  have hwalk := walk_amended s.features s'.names s'.mappings fuel seen lists l s
  rw [← h.same, hw] at hwalk
  exact ⟨_, hwalk, h.step hq.features hq.names hq.mappings⟩

theorem write {x : JavaType} {text : String} {r : Except Error Unit} (hw : s.write l x text = (r, t)) :
    ∃ t', s'.write l x text = (r, t') ∧ Surplus extra t t' := by
  have hframe := write_frame hw
  have hwrite := write_amended s.features s'.names s'.mappings s l x text
  rw [← h.same, hw] at hwrite
  refine ⟨_, hwrite, h.step ?_ ?_ ?_⟩ <;> rw [hframe]

theorem put {names names' : Names} (mapping : Mapping)
    (htaken : ∀ n, n ∈ names.taken ↔ n ∈ names'.taken ∨ n ∈ extra) :
    Surplus extra { s with names, mappings := s.mappings.put mapping }
      { s' with names := names', mappings := s'.mappings.put mapping } := by
  refine ⟨⟨?_, fun m => ?_⟩, htaken⟩
  · dsimp only
    rw [h.same]
    rfl
  · rw [Mappings.get?_put, Mappings.get?_put, h.get?]

/-- A type is found in both sessions unless it has a name that is in use in one of them only. -/
theorem bindType (hfree : (s'.bindType l).1.identity ∉ extra) :
    ∃ t', s'.bindType l = ((s.bindType l).1, (s.bindType l).2.1, t') ∧ Surplus extra (s.bindType l).2.2 t' := by
  rw [bindType_type, h.type?, h.features] at hfree
  unfold Session.bindType
  rw [h.type?, h.features]
  cases hx : s.mappings.type? l with
  | some x => exact ⟨s', rfl, h⟩
  | none =>
    rw [hx] at hfree
    -- The two searches stop at the same number, so the message that is noted is the same too.
    have hsame := Names.unique_of_more h.taken hfree
    rcases hu : s.names.unique (s.features.value Feature.defaultPackage) (typeName l) with ⟨x, names⟩
    rcases hu' : s'.names.unique (s.features.value Feature.defaultPackage) (typeName l) with ⟨x', names'⟩
    rw [hu, hu'] at hsame
    cases hsame
    refine ⟨_, rfl, put (h.say _ _) _ fun m => ?_⟩
    rw [Names.unique_taken hu, Names.unique_taken hu', h.taken, or_assoc]

theorem settle {bound : JavaType} (hfree : bound.identity ∉ extra) (isNew : Bool) (a : Option JavaType) :
    Surplus extra (s.settle l bound isNew a) (s'.settle l bound isNew a) := by
  unfold Session.settle
  split
  · refine (put (h.say _ _) _ fun m => ?_).setRecord l _
    have htaken : m ∈ s.names.taken ↔ m ∈ s'.names.taken ∨ m ∈ extra := h.taken m
    rw [Names.mem_release, Names.mem_release]
    constructor
    · rintro ⟨hm, hne⟩
      exact (htaken.mp hm).imp_left fun hm => ⟨hm, hne⟩
    · rintro (⟨hm, hne⟩ | hm)
      · exact ⟨htaken.mpr (Or.inl hm), hne⟩
      · -- What is in use in one session only is not the name that is given back.
        exact ⟨htaken.mpr (Or.inr hm), fun heq => hfree (heq ▸ hm)⟩
  · exact h.setRecord l _

theorem marked (havoids : Avoids extra (s'.marked l)) : (s'.bindType l).1 = (s.bindType l).1 ∧
    (s'.bindType l).2.1 = (s.bindType l).2.1 ∧ (s.bindType l).1.identity ∉ extra ∧
    Surplus extra (s.marked l) (s'.marked l) := by
  have hfree := havoids l _ (marked_type? s' l)
  obtain ⟨t', hb, ht⟩ := h.bindType hfree
  rw [hb] at hfree
  rw [Session.marked, Session.marked, hb]
  exact ⟨rfl, rfl, hfree, ht.setRecord l .pending⟩

theorem giveUp (l : Location) (bound : JavaType) (e : Error) :
    Meet extra (some (s.giveUp l bound e)) (some (s'.giveUp l bound e)) := by
  unfold Session.giveUp
  rw [h.features]
  split
  · exact Meet.ends ((h.say _ _).setRecord l _)
  · exact Meet.ends (h.eraseRecord l)

end Steps

/-! ### Requests -/

section Ask
variable (hask : ∀ {m u u'}, Surplus extra u u' → (∀ v ∈ moments n m u', Avoids extra v) →
  Meet extra (generateWithin n m u) (generateWithin n m u'))
include hask

theorem run (plan : Plan) (h : Surplus extra s s')
    (havoids : AllMoments n (Avoids extra) (plan.requests (generateWithin n) s')) :
    Meet extra (plan.run (generateWithin n) s) (plan.run (generateWithin n) s') ∧
      Parallel extra (plan.requests (generateWithin n) s) (plan.requests (generateWithin n) s') := by
  induction plan generalizing s s' with
  | done type source => exact ⟨Meet.ends h, .nil⟩
  | fail e => exact ⟨Meet.ends h, .nil⟩
  | note entry next ih => exact ih (h.note entry) havoids
  | request l next ih =>
    rw [Plan.requests] at havoids
    obtain ⟨hfirst, hrest⟩ := List.forall_mem_cons.mp havoids
    obtain ⟨ha, ha'⟩ | ⟨r, u, u', ha, ha', hu⟩ := (hask h hfirst).cases <;>
      simp only [Plan.run, Plan.requests, ha, ha'] at hrest ⊢
    · exact ⟨.none, .cons ⟨rfl, h⟩ .nil⟩
    · obtain ⟨hmeet, hparallel⟩ := ih r hu hrest
      exact ⟨hmeet, .cons ⟨rfl, h⟩ hparallel⟩

theorem perform {generator : Generator} {task : Task} (h : Surplus extra s s')
    (havoids : AllMoments n (Avoids extra) ((generator task).requests (generateWithin n) s')) :
    Meet extra (perform (generateWithin n) generator task s) (Session.perform (generateWithin n) generator task s') := by
  unfold Session.perform
  obtain ⟨hr, hr'⟩ | ⟨r, u, u', hr, hr', hu⟩ := (run hask _ h havoids).1.cases <;> rw [hr, hr']
  · exact .none
  · rcases r with e | ⟨type, source⟩
    · exact Meet.ends hu
    · dsimp only
      by_cases hempty : source.isEmpty = true
      · rw [if_pos hempty, if_pos hempty]
        exact Meet.ends hu
      · rw [if_neg hempty, if_neg hempty]
        rcases source.finish with e | text
        · exact .none
        · rcases hw : u.write task.location (type.getD task.requested) text with ⟨e | _, v⟩ <;>
            obtain ⟨v', hw', hv⟩ := hu.write hw <;> dsimp only <;> rw [hw, hw'] <;> exact Meet.ends hv

theorem pendingType (h : Surplus extra s s') (havoids : AllMoments n (Avoids extra) (pendingRequests l s')) :
    Meet extra (pendingType (generateWithin n) l s) (Session.pendingType (generateWithin n) l s') ∧
      Parallel extra (pendingRequests l s) (pendingRequests l s') := by
  unfold Session.pendingType pendingRequests at *
  rw [h.records] at havoids ⊢
  -- Following the location reads nothing that differs in the two sessions.
  rcases hw : Session.walk (s.records.length + 1) [] 0 l s with ⟨e | _ | ⟨target, lists⟩, u⟩ <;>
    obtain ⟨u', hw', hu⟩ := h.walk hw <;> rw [hw'] at havoids ⊢ <;> dsimp only at havoids ⊢
  · exact ⟨Meet.ends hu, .nil⟩
  · rw [hu.type?]
    exact ⟨Meet.ends hu, .nil⟩
  · rw [hu.isPending, hu.type?, hu.type?] at *
    by_cases hl : target = l
    · simp only [hl, if_true, decide_true, Bool.true_or]
      exact ⟨Meet.ends hu, .nil⟩
    · by_cases hp : u.isPending target = true
      · simp only [hl, hp, if_false, if_true, decide_false, Bool.or_true]
        refine ⟨?_, .nil⟩
        rcases u.mappings.type? target with _ | x
        · dsimp only
          rw [hu.type?]
          exact Meet.ends hu
        · exact Meet.ends hu
      · simp only [hl, hp, if_false, decide_false, Bool.or_self, Bool.false_eq_true] at havoids ⊢
        refine ⟨?_, .cons ⟨rfl, hu⟩ .nil⟩
        obtain ⟨ha, ha'⟩ | ⟨r, v, v', ha, ha', hv⟩ :=
          (hask hu (havoids _ (List.mem_singleton_self _))).cases <;> rw [ha, ha']
        · exact .none
        · rcases r with e | _ | x
          · exact Meet.ends hv
          · dsimp only
            rw [hv.type?]
            exact Meet.ends hv
          · exact Meet.ends hv

theorem produce {requested : JavaType} (h : Surplus extra s s')
    (havoids : AllMoments n (Avoids extra) (productionRequests (generateWithin n) l requested s')) :
    Meet extra (produce (generateWithin n) l requested s) (Session.produce (generateWithin n) l requested s') ∧
      Parallel extra (productionRequests (generateWithin n) l requested s)
        (productionRequests (generateWithin n) l requested s') := by
  unfold productionRequests at *
  rw [produce_eq, produce_eq]
  simp only [h.isGiven, h.resolve, h.generators, h.task] at havoids ⊢
  by_cases hg : s.isGiven requested = true
  · simp only [hg, if_true]
    exact ⟨Meet.ends h, .nil⟩
  · simp only [hg, Bool.false_eq_true, if_false] at havoids ⊢
    rcases hn : (s.resolve l).1 with e | node <;> rw [hn] at havoids <;> dsimp only at havoids ⊢
    · exact ⟨Meet.ends (h.read l), .nil⟩
    · rcases ht : Reference.target? l node with e | _ | target <;> rw [ht] at havoids <;> dsimp only at havoids ⊢
      · exact ⟨Meet.ends (h.read l), .nil⟩
      · have hopened := h.opened l node
        rcases hk : Kind.of l node with e | _ | kind <;> rw [hk] at havoids <;> dsimp only at havoids ⊢
        · split
          · exact ⟨Meet.ends (h.read l), .nil⟩
          · exact ⟨Meet.ends hopened, .nil⟩
        · split
          · exact ⟨Meet.ends (h.read l), .nil⟩
          · exact ⟨Meet.ends hopened, .nil⟩
        · rcases hgen : s.generators.get? kind with _ | generator <;> rw [hgen] at havoids <;> dsimp only at havoids ⊢
          · split
            · exact ⟨Meet.ends (h.read l), .nil⟩
            · exact ⟨Meet.ends hopened, .nil⟩
          · by_cases hobject : node.isObject = true
            · simp only [hobject, Bool.not_true, Bool.false_eq_true, if_false, if_true] at havoids ⊢
              exact ⟨perform hask hopened havoids, (run hask _ hopened havoids).2⟩
            · simp only [hobject, Bool.not_false, if_true, Bool.false_eq_true, if_false]
              exact ⟨Meet.ends (h.read l), .nil⟩
      · have hredirected := h.redirected l target
        exact ⟨hask hredirected (havoids _ (List.mem_singleton_self _)), .cons ⟨rfl, hredirected⟩ .nil⟩

theorem respond (h : Surplus extra s s') (hmarked : s.record? l = none → Avoids extra (s'.marked l))
    (havoids : AllMoments n (Avoids extra) (requests (generateWithin n) l s')) :
    Meet extra (respond (generateWithin n) l s) (Session.respond (generateWithin n) l s') ∧
      Parallel extra (requests (generateWithin n) l s) (requests (generateWithin n) l s') := by
  have hrecord := h.record? l
  rcases hr : s.record? l with _ | _ | type | type <;> rw [hr] at hrecord <;>
    simp only [requests, hr, hrecord] at havoids ⊢
  -- A name that is found is free in the session with more names too, as it is avoided.
  · obtain ⟨hbound, hnew, hfree, hs⟩ := h.marked (hmarked hr)
    rw [hbound] at havoids ⊢
    obtain ⟨hmeet, hparallel⟩ := produce hask hs havoids
    refine ⟨?_, hparallel⟩
    rw [respond_new hr, respond_new hrecord, hbound, hnew]
    obtain ⟨hp, hp'⟩ | ⟨r, u, u', hp, hp', hu⟩ := hmeet.cases <;> rw [hp, hp']
    · exact .none
    · rcases r with e | x
      · exact hu.giveUp l _ e
      · exact Meet.ends (hu.settle hfree _ x)
  · simp only [Session.respond, hr, hrecord]
    exact pendingType hask (h.say _ _) havoids
  · simp only [Session.respond, hr, hrecord]
    exact ⟨Meet.ends (h.say _ _), .nil⟩
  · simp only [Session.respond, hr, hrecord]
    exact ⟨Meet.ends h, .nil⟩

end Ask

theorem moments_of_parallel {qs qs' : List (Location × Session)}
    (hask : ∀ {m u u'}, Surplus extra u u' → (∀ v ∈ moments n m u', Avoids extra v) →
      List.Forall₂ (Surplus extra) (moments n m u) (moments n m u'))
    (h : Parallel extra qs qs') (havoids : AllMoments n (Avoids extra) qs') :
    List.Forall₂ (Surplus extra) (qs.flatMap fun q => moments n q.1 q.2) (qs'.flatMap fun q => moments n q.1 q.2) := by
  induction h with
  | nil => exact .nil
  | @cons q q' qs qs' hq _ ih =>
    obtain ⟨hfirst, hrest⟩ := List.forall_mem_cons.mp havoids
    rw [hq.1] at hfirst
    rw [List.flatMap_cons, List.flatMap_cons, hq.1]
    exact List.rel_append (hask hq.2 hfirst) (ih hrest)

/-! ### Runs -/

/-- Both sessions give the same answer and pass through the same sessions if all that the second one passes through
    avoid the names that are in use in the first one only. -/
theorem generateWithin (h : Surplus extra s s') (havoids : ∀ v ∈ moments n l s', Avoids extra v) :
    Meet extra (generateWithin n l s) (Session.generateWithin n l s') ∧
      List.Forall₂ (Surplus extra) (moments n l s) (moments n l s') := by
  induction n generalizing l s s' with
  | zero => exact ⟨.none, .nil⟩
  | succ n ih =>
    rw [moments] at havoids
    simp only [List.cons_append, List.append_assoc, List.forall_mem_cons, List.forall_mem_append, List.mem_flatMap,
      forall_exists_index, and_imp] at havoids
    obtain ⟨-, hmark, hnested, -⟩ := havoids
    -- The types that are bound in the nested requests are avoided too, since their moments are among those of the request.
    have hmarked : s.record? l = none → Avoids extra (s'.marked l) := by
      intro hnew
      rw [h.record?, if_pos hnew] at hmark
      exact hmark _ (List.mem_singleton_self _)
    have hrequests : AllMoments n (Avoids extra) (requests (Session.generateWithin n) l s') :=
      fun q hq v hv => hnested v q hq hv
    obtain ⟨hmeet, hparallel⟩ := respond (fun hu hv => (ih hu hv).1) h hmarked hrequests
    have hanswer : Meet extra (Session.generateWithin (n + 1) l s) (Session.generateWithin (n + 1) l s') := by
      rw [Session.generateWithin, Session.generateWithin]
      obtain ⟨hr, hr'⟩ | ⟨r, u, u', hr, hr', hu⟩ := hmeet.cases <;> rw [hr, hr']
      · exact .none
      · exact Meet.ends (hu.reply l r)
    refine ⟨hanswer, ?_⟩
    rw [moments, moments]
    refine List.rel_append (List.rel_append (.cons h ?_)
      (moments_of_parallel (fun hu hv => (ih hu hv).2) hparallel hrequests)) ?_
    · rw [h.record?]
      split
      · rename_i hnew
        exact .cons (h.marked (hmarked hnew)).2.2.2 .nil
      · exact .nil
    · obtain ⟨hr, hr'⟩ | ⟨r, u, u', hr, hr', hu⟩ := hanswer.cases <;> rw [hr, hr']
      · exact .nil
      · exact .cons hu .nil

theorem answerAll {requests : List Location} (h : Surplus extra s s')
    (havoids : ∀ v ∈ s'.momentsAll requests, Avoids extra v) :
    Option.Rel (fun r r' => r'.1 = r.1 ∧ Surplus extra r.2 r'.2) (s.answerAll requests) (s'.answerAll requests) ∧
      List.Forall₂ (Surplus extra) (s.momentsAll requests) (s'.momentsAll requests) := by
  induction requests generalizing s s' with
  | nil => exact ⟨.some ⟨rfl, h⟩, .nil⟩
  | cons l rest ih =>
    rw [momentsAll, List.forall_mem_append] at havoids
    obtain ⟨hfirst, hrest⟩ := havoids
    have hfirst' : Meet extra (s.generate l) (s'.generate l) ∧
        List.Forall₂ (Surplus extra) (moments s.depth l s) (moments s'.depth l s') := by
      rw [generate, generate, ← h.depth]
      exact h.generateWithin hfirst
    obtain ⟨hmeet, hmoments⟩ := hfirst'
    rw [momentsAll, momentsAll, Session.answerAll, Session.answerAll]
    obtain ⟨hr, hr'⟩ | ⟨r, u, u', hr, hr', hu⟩ := hmeet.cases <;> rw [hr'] at hrest <;> rw [hr, hr']
    · exact ⟨.none, List.rel_append hmoments .nil⟩
    · obtain ⟨hanswers, hlater⟩ := ih hu hrest
      refine ⟨?_, List.rel_append hmoments hlater⟩
      dsimp only
      -- The answers to the other requests agree, or neither session gives any.
      generalize u.answerAll rest = o, u'.answerAll rest = o' at hanswers
      rcases hanswers with ⟨heq, ht⟩ | _
      · exact .some ⟨congrArg (r :: ·) heq, ht⟩
      · exact .none

end Surplus

end Session

end SchemaBeans
