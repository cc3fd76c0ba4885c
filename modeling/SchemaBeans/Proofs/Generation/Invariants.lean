import SchemaBeans.Proofs.Generation.Reservation

/-! What holds at every moment of a request.

A property of sessions that is kept by messages and reading, by making a location pending, by writing, and by each of
the ways in which a request ends (`Session.Kept`) holds at all sessions that a request passes through, whether it is
answered or not. It may depend on something that is known of these sessions. While a location is pending more can be
told than that records are kept: the journal grows, and no record that is there is taken back (`Session.Along`). -/

namespace SchemaBeans

open Java (Source)

namespace Session
variable {s t u v : Session} {l m : Location} {bound : JavaType} {isNew : Bool} {a : Answer}

/-! ### Along a request -/

/-- From `s` to `t` what was recorded, written or noted in the journal is kept, and no record that is there is
    taken back. -/
structure Along (s t : Session) : Prop extends Keeps s t where
  journal : s.journal <:+ t.journal
  erased : ∀ {l r}, s.record? l = some r → .erased l ∈ t.journal → .erased l ∈ s.journal

namespace Along

theorem of_keeps (h : Keeps s t) (hj : t.journal = s.journal) : Along s t :=
  ⟨h, hj ▸ List.suffix_refl _, fun _ he => by rwa [hj] at he⟩

theorem steady : Steady Along where
  trans := fun h₁ h₂ => ⟨h₁.toKeeps.trans h₂.toKeeps, h₁.journal.trans h₂.journal,
    fun hr he => h₁.erased hr (h₂.erased (h₁.record hr) he)⟩
  quiet := fun hq => of_keeps (.of_quiet hq) hq.journal
  write := by
    intro s l x text r t hw
    refine of_keeps (.write hw) ?_
    rw [write_frame hw]

/-- A generation takes back no record but that of its own location, which was not there before. -/
theorem of_marked (hnew : s.record? l = none) (hb : Binds s l bound isNew t) (h : Along (t.setRecord l .pending) u)
    (hkeeps : Keeps s v) {e : Event} (hj : v.journal = e :: u.journal) (he : ∀ m, e = .erased m → m = l) : Along s v := by
  have hmarked : (t.setRecord l .pending).journal = .recorded l .pending :: s.journal := hb.journal_mark _
  refine ⟨hkeeps, ?_, fun {m r} hr hm => ?_⟩
  · rw [hj]
    exact ((hmarked ▸ List.suffix_cons _ _).trans h.journal).trans (List.suffix_cons _ _)
  · have hne : m ≠ l := by
      rintro rfl
      rw [hnew] at hr
      cases hr
    rw [hj] at hm
    rcases List.mem_cons.mp hm with hm | hm
    · exact absurd (he m hm.symm) hne
    · have hpast := h.erased ((hb.record?_mark_of_ne hne).trans hr) hm
      rw [hmarked] at hpast
      exact (List.mem_cons.mp hpast).resolve_left (by simp)

theorem responds {ask : Location → Session → Outcome (Option JavaType)}
    (hask : ∀ {m v b w}, ask m v = some (b, w) → Along v w) (h : Responds ask l s a t) : Along s t := by
  have hkeeps : Keeps s t := Keeps.responds (fun ha => (hask ha).toKeeps) h
  cases h with
  | resolved _ hq => exact steady.quiet hq
  | failed _ => exact steady.quiet (Quiet.refl s)
  | pending _ hq hs => exact steady.trans (steady.quiet hq) (steady.stands hask hs)
  | settled hnew hb hp => exact of_marked hnew hb (steady.produces hask hp) hkeeps journal_settle (by simp)
  | @assumed bound _ _ _ _ _ hnew hb hp _ hq =>
    refine of_marked hnew hb (steady.produces hask hp) hkeeps (e := .recorded l (.failed bound)) ?_ (by simp)
    rw [← hq.journal]
    rfl
  | forgotten hnew hb hp _ =>
    exact of_marked hnew hb (steady.produces hask hp) hkeeps (e := .erased l) rfl fun m hm => by cases hm; rfl

end Along

theorem generateWithin_along {n : Nat} (h : generateWithin n l s = some (a, t)) : Along s t := by
  induction n generalizing l s a t with
  | zero => cases h
  | succ n ih =>
    obtain ⟨_, u, hn, hr, rfl⟩ := generateWithin_responds h
    cases hn
    have hu := Along.responds ih hr
    refine ⟨generateWithin_keeps h, hu.journal.trans (List.suffix_cons _ _), fun hr he => hu.erased hr ?_⟩
    exact (List.mem_cons.mp he).resolve_left (by simp)

theorem Produces.along {n : Nat} (h : Produces (generateWithin n) l bound s a t) : Along s t :=
  Along.steady.produces generateWithin_along h

/-! ### Properties that are kept -/

/-- All sessions that given requests pass through have a property. -/
def AllMoments (n : Nat) (P : Session → Prop) (requests : List (Location × Session)) : Prop :=
  ∀ q ∈ requests, ∀ v ∈ moments n q.1 q.2, P v

/-- Every step of a generation keeps the property `P`, if the sessions that it passes through satisfy `H`. -/
structure Kept (H P : Session → Prop) : Prop where
  quiet : ∀ {s t}, P s → Quiet s t → P t
  mark : ∀ {s l}, P s → s.record? l = none → H (s.marked l) → P (s.marked l)
  /-- A source is written, or cannot be written, after its generator has come to an end. -/
  write : ∀ {n s l bound node generator a source text t r u}, P t → s.record? l = some .pending →
    s.mappings.type? l = some bound → s.Dispatches l node generator →
    (generator (s.task l bound node)).run (generateWithin n) (s.opened l node) = some (.ok (a, source), t) →
    Along s t → source.isEmpty = false → t.write l (a.getD bound) text = (r, u) → P u
  settle : ∀ {n s l bound isNew t a u}, P s → s.record? l = none → Binds s l bound isNew t →
    H (t.setRecord l .pending) → Produces (generateWithin n) l bound (t.setRecord l .pending) (.ok a) u → P u →
    H ((u.settle l bound isNew a).reply l (.ok a)) → P (u.settle l bound isNew a)
  assume : ∀ {n s l bound isNew t e u}, P s → s.record? l = none → Binds s l bound isNew t →
    Produces (generateWithin n) l bound (t.setRecord l .pending) (.error e) u → P u →
    u.features.value Feature.ignoreMissingTypes = true → P (u.setRecord l (.failed bound))
  forget : ∀ {n s l bound isNew t e u}, P s → s.record? l = none → Binds s l bound isNew t →
    Produces (generateWithin n) l bound (t.setRecord l .pending) (.error e) u → P u →
    H ((u.eraseRecord l).reply l (.error (.generation l e))) → P (u.eraseRecord l)
  reply : ∀ {s l a}, P s → P (s.reply l a)

namespace Kept
variable {H P : Session → Prop} (K : Kept H P) {n : Nat}
include K

section Ask
variable (hask : ∀ {m u}, (∀ w ∈ moments n m u, H w) → P u →
  (∀ b v, generateWithin n m u = some (b, v) → P v) ∧ ∀ w ∈ moments n m u, P w)
include hask

omit K in
theorem allMoments {requests : List (Location × Session)} (hH : AllMoments n H requests) (hP : ∀ q ∈ requests, P q.2) :
    AllMoments n P requests :=
  fun q hq => (hask (hH q hq) (hP q hq)).2

theorem run (plan : Plan) (hH : AllMoments n H (plan.requests (generateWithin n) s)) (hs : P s) :
    (∀ r t, plan.run (generateWithin n) s = some (r, t) → P t) ∧
      AllMoments n P (plan.requests (generateWithin n) s) := by
  induction plan generalizing s with
  | done type source =>
    refine ⟨fun r t h => ?_, by simp [AllMoments, Plan.requests]⟩
    cases h
    exact hs
  | fail e =>
    refine ⟨fun r t h => ?_, by simp [AllMoments, Plan.requests]⟩
    cases h
    exact hs
  | note entry next ih => exact ih hH (K.quiet hs (Quiet.note s entry))
  | request l next ih =>
    rw [Plan.requests] at hH ⊢
    obtain ⟨hfirst, hrest⟩ := List.forall_mem_cons.mp hH
    obtain ⟨hanswer, hmoments⟩ := hask hfirst hs
    -- The rest of the plan runs only if the request is answered.
    rcases ha : generateWithin n l s with _ | ⟨answer, u⟩ <;> simp only [Plan.run, ha] at hrest ⊢
    · refine ⟨fun r t h => ?_, List.forall_mem_cons.mpr ⟨hmoments, by simp⟩⟩
      cases h
    · obtain ⟨hend, hothers⟩ := ih answer hrest (hanswer _ _ ha)
      exact ⟨hend, List.forall_mem_cons.mpr ⟨hmoments, hothers⟩⟩

theorem stands (hH : AllMoments n H (pendingRequests l s)) (hs : P s) :
    (∀ b t, Stands (generateWithin n) l s b t → P t) ∧ AllMoments n P (pendingRequests l s) := by
  have hasked : ∀ {target lists v b u}, walk (s.records.length + 1) [] 0 l s = (.ok (.stop target lists), v) →
      target ≠ l → v.isPending target = false → generateWithin n target v = some (b, u) → P u := by
    intro target lists v b u hw hne hp ha
    have hmem : (target, v) ∈ pendingRequests l s := by simp [pendingRequests, hw, hne, hp]
    exact (hask (hH _ hmem) (K.quiet hs (walk_quiet hw))).1 _ _ ha
  refine ⟨fun b t h => ?_, allMoments hask hH fun q hq => ?_⟩
  · cases h with
    | lost hw => exact K.quiet hs (walk_quiet hw)
    | own hw _ => exact K.quiet hs (walk_quiet hw)
    | pending hw _ _ => exact K.quiet hs (walk_quiet hw)
    | failed hw hne hp ha => exact hasked hw hne hp ha
    | asked hw hne hp ha => exact hasked hw hne hp ha
  · unfold pendingRequests at hq
    split at hq
    · rename_i target lists v hw
      split at hq
      · cases hq
      · cases List.mem_singleton.mp hq
        exact K.quiet hs (walk_quiet hw)
    · cases hq

theorem produces (hl : s.record? l = some .pending) (hbound : s.mappings.type? l = some bound)
    (hH : AllMoments n H (productionRequests (generateWithin n) l bound s)) (hs : P s) :
    (∀ b t, Produces (generateWithin n) l bound s b t → P t) ∧
      AllMoments n P (productionRequests (generateWithin n) l bound s) := by
  have hreference : ∀ {node target}, s.isGiven bound = false → (s.resolve l).1 = .ok node →
      Reference.target? l node = .ok (some target) →
      (∀ b t, generateWithin n target (s.redirected l target) = some (b, t) → P t) ∧
        AllMoments n P (productionRequests (generateWithin n) l bound s) := by
    intro node target hg hn ht
    rw [productionRequests_reference hg hn ht] at hH ⊢
    obtain ⟨hu, hmoments⟩ := hask (hH _ (List.mem_singleton_self _)) (K.quiet hs (redirected_quiet s l target))
    exact ⟨hu, by simpa [AllMoments] using hmoments⟩
  have hrun : ∀ {node generator}, s.isGiven bound = false → s.Dispatches l node generator →
      (∀ r t, (generator (s.task l bound node)).run (generateWithin n) (s.opened l node) = some (r, t) → P t) ∧
        AllMoments n P (productionRequests (generateWithin n) l bound s) := by
    intro node generator hg hd
    rw [productionRequests_dispatch hg hd] at hH ⊢
    exact K.run hask _ hH (K.quiet hs (opened_quiet s l node))
  have hwrite : ∀ {node generator b source text v r w}, s.isGiven bound = false → s.Dispatches l node generator →
      (generator (s.task l bound node)).run (generateWithin n) (s.opened l node) = some (.ok (b, source), v) →
      source.isEmpty = false → v.write l (b.getD bound) text = (r, w) → P w := by
    intro node generator b source text v r w hg hd hv hfull hw
    -- Between the two sessions the location stays pending, as writing needs it.
    have halong : Along s v :=
      Along.steady.trans (Along.steady.quiet (opened_quiet s l node)) (Along.steady.run generateWithin_along hv)
    exact K.write ((hrun hg hd).1 _ _ hv) hl hbound hd hv halong hfull hw
  refine ⟨fun b t h => ?_, ?_⟩
  · cases h with
    | given _ => exact hs
    | refused _ _ hq => exact K.quiet hs hq
    | reference hg hn ht ha => exact (hreference hg hn ht).1 _ _ ha
    | null _ _ _ => exact K.quiet hs (opened_quiet _ _ _)
    | failed hg hd hv => exact (hrun hg hd).1 _ _ hv
    | silent hg hd hv _ => exact (hrun hg hd).1 _ _ hv
    | unwritten hg hd hv hfull _ hw => exact hwrite hg hd hv hfull hw
    | written hg hd hv hfull _ hw => exact hwrite hg hd hv hfull hw
  · rcases productionRequests_cases (generateWithin n) l bound s with hnone | ⟨_, _, hg, hn, ht⟩ | ⟨_, _, hg, hd⟩
    · simp [AllMoments, hnone]
    · exact (hreference hg hn ht).2
    · exact (hrun hg hd).2

/-- A location without a record becomes pending, its type is produced, and it gets a record or loses it again. -/
theorem new (hnew : s.record? l = none) (hmarked : H (s.marked l))
    (hH : AllMoments n H (requests (generateWithin n) l s))
    (hend : ∀ b t, respond (generateWithin n) l s = some (b, t) → H (t.reply l b)) (hs : P s) :
    (∀ b t, respond (generateWithin n) l s = some (b, t) → P t) ∧ P (s.marked l) ∧
      AllMoments n P (requests (generateWithin n) l s) := by
  have hrequests : requests (generateWithin n) l s =
      productionRequests (generateWithin n) l (s.bindType l).1 (s.marked l) := by rw [requests, hnew]
  have hb := s.marked_binds l
  have hP := K.mark hs hnew hmarked
  rw [hrequests] at hH ⊢
  obtain ⟨hproduced, hmoments⟩ := K.produces hask record?_setRecord_self hb.type?_self hH hP
  refine ⟨fun b t h => ?_, hP, hmoments⟩
  obtain ⟨r, u, hp, hends⟩ := respond_of_new hnew h
  have hproduces := produce_produces hp
  have hu := hproduced _ _ hproduces
  rcases hends with ⟨x, rfl, rfl, rfl⟩ | ⟨e, rfl, hgiveUp⟩
  · exact K.settle hs hnew hb hmarked hproduces hu (hend _ _ h)
  · unfold giveUp at hgiveUp
    split at hgiveUp <;> rename_i hfeature <;> cases hgiveUp
    · have hsaid := K.assume hs hnew hb hproduces hu hfeature
      exact K.quiet hsaid ⟨rfl, .same rfl rfl⟩
    · exact K.forget hs hnew hb hproduces hu (hend _ _ h)

theorem recorded (hr : s.record? l ≠ none) (hH : AllMoments n H (requests (generateWithin n) l s)) (hs : P s) :
    (∀ b t, respond (generateWithin n) l s = some (b, t) → P t) ∧
      AllMoments n P (requests (generateWithin n) l s) := by
  unfold requests at hH ⊢
  unfold respond
  rcases hrecord : s.record? l with _ | _ | type | type <;> simp only [hrecord] at hH ⊢
  · exact absurd hrecord hr
  · obtain ⟨hstands, hmoments⟩ := K.stands hask hH (K.quiet hs (Quiet.say s _ _))
    exact ⟨fun b t h => hstands _ _ (pendingType_stands h), hmoments⟩
  · refine ⟨fun b t h => ?_, by simp [AllMoments]⟩
    cases h
    exact K.quiet hs (Quiet.say s _ _)
  · refine ⟨fun b t h => ?_, by simp [AllMoments]⟩
    cases h
    exact hs

end Ask

/-- A property that every step keeps holds at every moment of a request, whether the request is answered or not, and
    when it has been answered. -/
theorem throughout (hH : ∀ v ∈ moments n l s, H v) (hs : P s) :
    (∀ b t, generateWithin n l s = some (b, t) → P t) ∧ ∀ v ∈ moments n l s, P v := by
  induction n generalizing l s with
  | zero =>
    refine ⟨fun b t h => ?_, fun v hv => ?_⟩
    · cases h
    · cases hv
  | succ n ih =>
    rw [moments] at hH ⊢
    simp only [List.cons_append, List.append_assoc, List.forall_mem_cons, List.forall_mem_append, List.mem_flatMap,
      forall_exists_index, and_imp, Option.mem_toList, Option.map_eq_some_iff] at hH ⊢
    obtain ⟨-, hmark, hnested, hend⟩ := hH
    have hrequests : AllMoments n H (requests (generateWithin n) l s) := fun q hq v hv => hnested v q hq hv
    have hanswer : ∀ {Q : Session → Prop}, (∀ b t, respond (generateWithin n) l s = some (b, t) → Q (t.reply l b)) ↔
        ∀ b t, generateWithin (n + 1) l s = some (b, t) → Q t := by
      intro Q
      rw [generateWithin]
      rcases respond (generateWithin n) l s with _ | ⟨b, t⟩ <;> simp
    have hkept : (∀ b t, respond (generateWithin n) l s = some (b, t) → P t) ∧
        (∀ v ∈ if s.record? l = none then [s.marked l] else [], P v) ∧
        AllMoments n P (requests (generateWithin n) l s) := by
      by_cases hnew : s.record? l = none
      · rw [if_pos hnew] at hmark ⊢
        obtain ⟨hPu, hPmarked, hPnested⟩ := K.new ih hnew (hmark _ (List.mem_singleton_self _)) hrequests
          (hanswer.mpr fun b t h => hend _ _ h rfl) hs
        exact ⟨hPu, by simpa using hPmarked, hPnested⟩
      · rw [if_neg hnew]
        obtain ⟨hPu, hPnested⟩ := K.recorded ih hnew hrequests hs
        exact ⟨hPu, by simp, hPnested⟩
    obtain ⟨hPu, hPmarked, hPnested⟩ := hkept
    have hPt := hanswer.mp fun b t h => K.reply (l := l) (a := b) (hPu b t h)
    refine ⟨hPt, hs, hPmarked, fun v q hq hv => hPnested q hq v hv, ?_⟩
    rintro v ⟨b, t⟩ h rfl
    exact hPt b t h

/-- A property that every step keeps holds when a request has been answered, and at every moment of it. -/
theorem request (h : generateWithin n l s = some (a, t)) (hH : ∀ v ∈ moments n l s, H v) (hs : P s) :
    P t ∧ ∀ v ∈ moments n l s, P v := by
  obtain ⟨hend, hmoments⟩ := K.throughout hH hs
  exact ⟨hend a t h, hmoments⟩

theorem throughoutAll {requests : List Location} (hH : ∀ v ∈ s.momentsAll requests, H v) (hs : P s) :
    ∀ v ∈ s.momentsAll requests, P v := by
  induction requests generalizing s with
  | nil => exact fun v hv => by cases hv
  | cons l rest ih =>
    rw [momentsAll, List.forall_mem_append] at hH ⊢
    obtain ⟨hfirst, hrest⟩ := hH
    obtain ⟨hend, hmoments⟩ := K.throughout hfirst hs
    refine ⟨hmoments, ?_⟩
    rcases hr : s.generate l with _ | ⟨b, t⟩ <;> rw [hr] at hrest
    · exact fun v hv => by cases hv
    · exact ih hrest (hend b t hr)

end Kept

end Session

end SchemaBeans
