import SchemaBeans.Proofs.Generation.Setting
import SchemaBeans.Proofs.Generation.Termination
import SchemaBeans.Proofs.Generator.Emission
import SchemaBeans.Proofs.Generator.Failures

/-! Pending locations and what they wait for.

While locations are pending, each of them is an object or waits for what it hops to (`Session.Waits`). So
whoever asks for a pending location is led through pending ones only, in a circle or to a pending object
(`Stands.waiting`); nothing is generated on the way. -/

namespace SchemaBeans

open Java (Source)

namespace Kind

theorem isArray_iff {l : Location} {node : Json} : isArray node = true ↔ Kind.of l node = .ok (some "array") := by
  unfold isArray Kind.of
  split <;> rename_i hk
  · simp only [hk, decide_eq_true_eq]
    split <;> simp_all
  · simp only [hk, decide_eq_true_eq]
    split <;> simp_all
  · split <;> simp_all [fallback]

theorem isArray_of_object {l : Location} {node : Json} (h : Kind.of l node = .ok (some "object")) : isArray node = false := by
  rw [Bool.eq_false_iff]
  intro ha
  rw [isArray_iff.mp ha] at h
  simp at h

end Kind

/-! ### Where hops lead -/

/-- Hops lead from the one location to the other, through a number of arrays. -/
inductive Setup.Leads (w : Setup) : Location → Nat → Location → Prop
  | here (l : Location) : Leads w l 0 l
  | reference {l m target : Location} {n : Nat} : w.Refers l m → Leads w m n target → Leads w l n target
  | items {l m target : Location} {n : Nat} : w.Lists l m → Leads w m n target → Leads w l (n + 1) target

theorem Setup.IsObject.not_circular {w : Setup} {o p q : Location} (ho : w.IsObject o)
    (hpo : Relation.ReflTransGen w.Hop p o) (hpq : Relation.ReflTransGen w.Hop p q) : ¬Relation.TransGen w.Hop q q := by
  intro hcycle
  induction hpo using Relation.ReflTransGen.head_induction_on with
  | refl =>
    have hnone : ∀ m, ¬w.Hop o m := fun m => ho.emits.not_hop
    obtain ⟨m, hm⟩ : ∃ m, w.Hop o m := by
      rcases Relation.ReflTransGen.cases_head hpq with rfl | ⟨m, hm, -⟩
      · obtain ⟨m, hm, -⟩ := Relation.TransGen.head'_iff.mp hcycle
        exact ⟨m, hm⟩
      · exact ⟨m, hm⟩
    exact hnone m hm
  | head hstep _ ih =>
    rcases Relation.ReflTransGen.cases_head hpq with rfl | ⟨m, hm, hmq⟩
    · obtain ⟨m, hm, hmq⟩ := Relation.TransGen.head'_iff.mp hcycle
      exact ih (hstep.unique hm ▸ hmq)
    · exact ih (hstep.unique hm ▸ hmq)

namespace Session
variable {w : Setup} {f : Features} {s t u : Session} {l m : Location}

theorem hop_of_node {node : Json} (h : s.Over w.documents) (hn : l.node? w.documents = some node) :
    (s.hop l).1 = hopFrom l node := by
  have hres := h.resolve l
  rw [hn] at hres
  unfold hop
  split <;> rename_i heq <;> rw [heq] at hres <;> cases hres
  rfl

theorem hop_cases (h : s.Over w.documents) (hl : w.IsObject l ∨ ∃ m, w.Hop l m) :
    (w.IsObject l ∧ (s.hop l).1 = .ok none) ∨ (∃ m, w.Refers l m ∧ (s.hop l).1 = .ok (some (.reference m))) ∨
    ∃ m, w.Lists l m ∧ (s.hop l).1 = .ok (some (.items m)) := by
  rcases hl with ho | ⟨m, hr | hl⟩
  · refine Or.inl ⟨ho, ?_⟩
    obtain ⟨node, hs, hk⟩ := ho
    rw [hop_of_node h hs.found, hopFrom, hs.plain]
    simp [Kind.isArray_of_object hk]
  · refine Or.inr (Or.inl ⟨m, hr, ?_⟩)
    obtain ⟨-, node, hn, ht⟩ := hr
    rw [hop_of_node h hn, hopFrom, ht]
  · refine Or.inr (Or.inr ⟨m, hl, ?_⟩)
    obtain ⟨node, fields, hs, hk, hi, ht⟩ := hl
    rw [hop_of_node h hs.found, hopFrom, hs.plain]
    simp only [Kind.isArray_iff.mpr hk, hi, ht, if_true]
    rfl

theorem nested_succ (n : Nat) (x : JavaType) : nested (n + 1) x = (nested n x).listOf := by
  induction n generalizing x with
  | zero => rfl
  | succ n ih =>
    rw [nested, ih]
    rfl

/-! ### Waiting -/

/-- The pending locations of a session when a location is asked for: each is bound to a type, and is an object
    or hops to another location, which is pending or is the one that is asked for. Hops from it lead to an object
    or to the location that is asked for. -/
structure Waits (w : Setup) (s : Session) (l : Location) : Prop where
  bound : ∀ {p}, s.record? p = some .pending → ∃ x, s.mappings.type? p = some x
  hops : ∀ {p}, s.record? p = some .pending → w.IsObject p ∨ ∃ m, w.Hop p m
  chained : ∀ {p m}, s.record? p = some .pending → w.Hop p m → s.record? m = some .pending ∨ m = l
  ahead : ∀ {p}, s.record? p = some .pending →
    (∃ o, Relation.ReflTransGen w.Hop p o ∧ w.IsObject o) ∨ Relation.TransGen w.Hop p l

namespace Waits
variable {bound : JavaType} {isNew : Bool}

theorem idle (h : ∀ p, s.record? p ≠ some .pending) : Waits w s l :=
  ⟨fun hp => absurd hp (h _), fun hp => absurd hp (h _), fun hp _ => absurd hp (h _), fun hp => absurd hp (h _)⟩

theorem keep (h : Waits w s l) (hk : Keeps s t) : Waits w t l where
  bound := fun hp => by
    rw [hk.type (hk.pending hp)]
    exact h.bound (hk.pending hp)
  hops := fun hp => h.hops (hk.pending hp)
  chained := fun hp hm => (h.chained (hk.pending hp) hm).imp_left hk.record
  ahead := fun hp => h.ahead (hk.pending hp)

theorem mark (h : Waits w s l) (hnew : s.record? l = none) (hb : Binds s l bound isNew t)
    (hcase : w.IsObject l ∨ w.Hop l m) : Waits w (t.setRecord l .pending) m := by
  refine ⟨fun {p} hp => ?_, fun {p} hp => ?_, fun {p q} hp hq => ?_, fun {p} hp => ?_⟩
  · by_cases hpl : p = l
    · exact ⟨bound, hpl ▸ hb.type?_self⟩
    · rw [hb.record?_mark_of_ne hpl] at hp
      obtain ⟨x, hx⟩ := h.bound hp
      exact ⟨x, (hb.type?_of_ne hpl).trans hx⟩
  · by_cases hpl : p = l
    · exact hpl ▸ hcase.imp_right fun hh => ⟨m, hh⟩
    · rw [hb.record?_mark_of_ne hpl] at hp
      exact h.hops hp
  · by_cases hql : q = l
    · exact Or.inl (hql ▸ record?_setRecord_self)
    · by_cases hpl : p = l
      · subst hpl
        -- An object does not hop, and any other location hops to one place only.
        rcases hcase with ho | hh
        · exact absurd hq ho.emits.not_hop
        · exact Or.inr (hq.unique hh)
      · rw [hb.record?_mark_of_ne hpl] at hp
        rw [hb.record?_mark_of_ne hql]
        exact Or.inl ((h.chained hp hq).resolve_right hql)
  · by_cases hpl : p = l
    · subst hpl
      rcases hcase with ho | hh
      · exact Or.inl ⟨p, .refl, ho⟩
      · exact Or.inr (.single hh)
    · rw [hb.record?_mark_of_ne hpl] at hp
      rcases h.ahead hp with hobject | hlead
      · exact Or.inl hobject
      · rcases hcase with ho | hh
        · exact Or.inl ⟨l, hlead.to_reflTransGen, ho⟩
        · exact Or.inr (hlead.tail hh)

/-- A pending location that is asked for and leads into a circle lies on the circle. -/
theorem circular {p : Location} (h : Waits w s l) (hl : s.record? l = some .pending)
    (hp : Relation.ReflTransGen w.Hop l p) (hcycle : Relation.TransGen w.Hop p p) : Relation.TransGen w.Hop l l := by
  rcases h.ahead hl with ⟨o, hlead, ho⟩ | hlead
  · exact absurd hcycle (ho.not_circular hlead hp)
  · exact hlead

end Waits

/-! ### Asking for a pending location -/

/-- Following hops from a pending location ends in a circle, or at a pending object. -/
theorem Follows.waiting {seen : List Location} {lists : Nat} {c : Location} {r : Except Error Walk}
    (h : Follows seen lists c s r t) (ho : s.Over w.documents) (hwaits : Waits w s l)
    (hl : s.record? l = some .pending) (hc : s.record? c = some .pending)
    (hseen : ∀ p ∈ seen, Relation.TransGen w.Hop p c) :
    (r = .ok .cycle ∧ ∃ p, s.record? p = some .pending ∧ Relation.ReflTransGen w.Hop c p ∧ Relation.TransGen w.Hop p p) ∨
    ∃ target n, r = .ok (.stop target (lists + n)) ∧ s.record? target = some .pending ∧ w.IsObject target ∧
      w.Leads c n target := by
  -- A hop passes its location, so the locations passed lead on to its target, which is pending too.
  have hpass : ∀ {s : Session} {seen c m}, Waits w s l → s.record? l = some .pending → s.record? c = some .pending →
      (∀ p ∈ seen, Relation.TransGen w.Hop p c) → w.Hop c m →
      s.record? m = some .pending ∧ ∀ p ∈ c :: seen, Relation.TransGen w.Hop p m := by
    intro s seen c m hwaits hl hc hseen hm
    refine ⟨(hwaits.chained hc hm).elim id fun heq => heq ▸ hl, fun p hp => ?_⟩
    rcases List.mem_cons.mp hp with rfl | hp
    · exact .single hm
    · exact (hseen p hp).tail hm
  induction h with
  | free hp =>
    rw [isPending_iff.mpr hc] at hp
    cases hp
  | cycle _ hmem => exact Or.inl ⟨rfl, _, hc, .refl, hseen _ hmem⟩
  | lost _ _ he =>
    rcases hop_cases ho (hwaits.hops hc) with ⟨-, hh⟩ | ⟨_, -, hh⟩ | ⟨_, -, hh⟩ <;> rw [he] at hh <;> cases hh
  | own _ _ hnone =>
    rcases hop_cases ho (hwaits.hops hc) with ⟨hobject, -⟩ | ⟨_, -, hh⟩ | ⟨_, -, hh⟩
    · exact Or.inr ⟨_, 0, rfl, hc, hobject, .here _⟩
    · rw [hnone] at hh
      cases hh
    · rw [hnone] at hh
      cases hh
  | reference _ _ htarget _ ih =>
    rcases hop_cases ho (hwaits.hops hc) with ⟨-, hh⟩ | ⟨m, hr, hh⟩ | ⟨_, -, hh⟩ <;> rw [htarget] at hh <;> cases hh
    have hq := hop_quiet htarget
    obtain ⟨hm, hseen'⟩ := hpass hwaits hl hc hseen (Or.inl hr)
    simp only [hq.record?] at ih
    rcases ih (hq.documents _ ho) (hwaits.keep (.of_quiet hq)) hl hm hseen' with
      ⟨hw, p, hp, hlead, hcycle⟩ | ⟨target, n, hw, hp, hobj, hlead⟩
    · exact Or.inl ⟨hw, p, hp, hlead.head (Or.inl hr), hcycle⟩
    · exact Or.inr ⟨target, n, hw, hp, hobj, .reference hr hlead⟩
  | items _ _ htarget _ ih =>
    rcases hop_cases ho (hwaits.hops hc) with ⟨-, hh⟩ | ⟨_, -, hh⟩ | ⟨m, hlist, hh⟩ <;> rw [htarget] at hh <;> cases hh
    have hq := hop_quiet htarget
    obtain ⟨hm, hseen'⟩ := hpass hwaits hl hc hseen (Or.inr hlist)
    simp only [hq.record?] at ih
    rcases ih (hq.documents _ ho) (hwaits.keep (.of_quiet hq)) hl hm hseen' with
      ⟨hw, p, hp, hlead, hcycle⟩ | ⟨target, n, hw, hp, hobj, hlead⟩
    · exact Or.inl ⟨hw, p, hp, hlead.head (Or.inr hlist), hcycle⟩
    · refine Or.inr ⟨target, n + 1, ?_, hp, hobj, .items hlist hlead⟩
      rw [hw, Nat.add_assoc, Nat.add_comm 1 n]

/-- A pending location is answered with its own type if hops go in a circle, and else with that of the pending
    object they lead to, inside the lists they pass. -/
theorem Stands.waiting {ask : Location → Session → Outcome (Option JavaType)} {r : Answer} (h : Stands ask l s r t)
    (ho : s.Over w.documents) (hwaits : Waits w s l) (hl : s.record? l = some .pending) :
    Quiet s t ∧
    ((r = .ok (s.mappings.type? l) ∧
        ∃ p, s.record? p = some .pending ∧ Relation.ReflTransGen w.Hop l p ∧ Relation.TransGen w.Hop p p) ∨
      ∃ target n x, s.record? target = some .pending ∧ w.IsObject target ∧ w.Leads l n target ∧
        s.mappings.type? target = some x ∧ r = .ok (some (nested n x))) := by
  -- Whether the walk comes to its end or not, it passes pending locations only.
  have hend : ∀ {r v}, walk (s.records.length + 1) [] 0 l s = (r, v) →
      (r = .ok .cycle ∧
        ∃ p, s.record? p = some .pending ∧ Relation.ReflTransGen w.Hop l p ∧ Relation.TransGen w.Hop p p) ∨
      ∃ target n x, r = .ok (.stop target n) ∧ s.record? target = some .pending ∧ w.IsObject target ∧
        w.Leads l n target ∧ s.mappings.type? target = some x := by
    intro r v hw
    refine ((walk_follows List.nodup_nil (by simp) (by simp) hw).waiting ho hwaits hl hl (by simp)).imp_right ?_
    rintro ⟨target, n, hr, hp, hobj, hlead⟩
    obtain ⟨x, hx⟩ := hwaits.bound hp
    exact ⟨target, n, x, by rw [hr, Nat.zero_add], hp, hobj, hlead, hx⟩
  cases h with
  | lost hw =>
    rcases hend hw with ⟨hr, -⟩ | ⟨_, _, _, hr, -⟩ <;> cases hr
  | own hw hcase =>
    have hq := walk_quiet hw
    rw [hq.mappings]
    refine ⟨hq, ?_⟩
    rcases hend hw with ⟨-, hcycle⟩ | ⟨target, n, x, hr, hp, hobj, hlead, hx⟩
    · exact Or.inl ⟨rfl, hcycle⟩
    · cases hr
      rcases hcase with hcycle | ⟨lists, hstop⟩
      · cases hcycle
      · cases hstop
        exact Or.inr ⟨_, 0, x, hp, hobj, .here _, hx, by rw [hx]; rfl⟩
  | pending hw _ _ =>
    have hq := walk_quiet hw
    rw [hq.mappings]
    refine ⟨hq, ?_⟩
    rcases hend hw with ⟨hr, -⟩ | ⟨target, n, x, hr, hp, hobj, hlead, hx⟩ <;> cases hr
    exact Or.inr ⟨_, _, x, hp, hobj, hlead, hx, by rw [hx]; rfl⟩
  | failed hw _ hp _ =>
    rcases hend hw with ⟨hr, -⟩ | ⟨target, n, x, hr, hp', -⟩ <;> cases hr
    rw [(walk_quiet hw).isPending, isPending_iff.mpr hp'] at hp
    cases hp
  | asked hw _ hp _ =>
    rcases hend hw with ⟨hr, -⟩ | ⟨target, n, x, hr, hp', -⟩ <;> cases hr
    rw [(walk_quiet hw).isPending, isPending_iff.mpr hp'] at hp
    cases hp

/-! ### Asking in turn -/

/-- An invariant holds, and a location may be asked for. All this is about locations in `R` only. -/
structure Ready (w : Setup) (R : Location → Prop) (I : Session → Prop) (s : Session) (l : Location) : Prop where
  holds : I s
  waits : Waits w s l
  pending : ∀ {p}, s.record? p = some .pending → R p
  reached : R l

section Ready
variable {R : Location → Prop} {I : Session → Prop} {bound : JavaType} {isNew : Bool}

theorem Ready.idle (hidle : ∀ p, s.record? p ≠ some .pending) (hs : I s) (hl : R l) : Ready w R I s l :=
  ⟨hs, .idle hidle, fun hp => absurd hp (hidle _), hl⟩

theorem Ready.keep (h : Ready w R I s l) (hk : Keeps s t) (ht : I t) : Ready w R I t l :=
  ⟨ht, h.waits.keep hk, fun hp => h.pending (hk.pending hp), h.reached⟩

section Mark
variable (hR : ∀ {m m'}, R m → w.Needs m m' → R m') (h : Ready w R I s l) (hnew : s.record? l = none)
  (hb : Binds s l bound isNew t)
include hR h hnew hb

theorem Ready.mark (hm : w.Needs l m) (hcase : w.IsObject l ∨ w.Hop l m) (hk : Keeps (t.setRecord l .pending) u)
    (hI : I u) : Ready w R I u m := by
  refine ⟨hI, (h.waits.mark hnew hb hcase).keep hk, fun {p} hp => ?_, hR h.reached hm⟩
  by_cases hpl : p = l
  · exact hpl ▸ h.reached
  · exact h.pending ((hb.record?_mark_of_ne hpl).symm.trans (hk.pending hp))

theorem Ready.redirect (hm : w.Refers l m) (hI : I ((t.setRecord l .pending).redirected l m)) :
    Ready w R I ((t.setRecord l .pending).redirected l m) m :=
  h.mark hR hnew hb (Or.inl hm) (Or.inr (Or.inl hm)) (.of_quiet (redirected_quiet _ _ _)) hI

theorem Ready.dispatch {node : Json} (hs : w.Schema l node) (hm : l.Asks node m)
    (hk : Keeps ((t.setRecord l .pending).opened l node) u) (hI : I u) : Ready w R I u m :=
  h.mark hR hnew hb (Or.inr ⟨node, hs, hm⟩) (hs.object_or_hop hm) ((Keeps.of_quiet (opened_quiet _ _ _)).trans hk) hI

end Mark

/-- A plan ends with what the answers to its requests lead to: each keeps the invariant, and what it says
    (`D`) is true to the end. -/
theorem Ready.run {ask : Location → Session → Outcome (Option JavaType)} {D : Session → Location → Option JavaType → Prop}
    (hquiet : ∀ {u v}, Quiet u v → I u → I v) (hkeep : ∀ {m u r v}, ask m u = some (r, v) → Keeps u v)
    (hask : ∀ {m u b v}, ask m u = some (.ok b, v) → Ready w R I u m → I v ∧ D v m b)
    (hgrow : ∀ {u v m b}, I u → I v → Keeps u v → D u m b → D v m b) {P : Location → Prop}
    {Q : Option JavaType → Source → Prop} {plan : Plan} (hfits : plan.Fits P Q)
    (hready : ∀ m, P m → ∀ v, Keeps s v → I v → Ready w R I v m) (hs : I s) {a : Option JavaType} {source : Source}
    (hrun : plan.run ask s = some (.ok (a, source), t)) : I t ∧ plan.Yields (D t) a source := by
  -- The invariant is kept from one request to the next, so what an answer says is true to the end.
  have hcalm : Calm fun u v => Keeps s u ∧ I u → Keeps s v ∧ I v ∧ Keeps u v :=
    { trans := fun h₁ h₂ hu => by
        obtain ⟨hsv, hv, huv⟩ := h₁ hu
        obtain ⟨hsx, hx, hvx⟩ := h₂ ⟨hsv, hv⟩
        exact ⟨hsx, hx, huv.trans hvx⟩
      quiet := fun hq hu => ⟨hu.1.trans (.of_quiet hq), hquiet hq hu.2, .of_quiet hq⟩ }
  obtain ⟨hst, hy⟩ := hcalm.run_yields (fun {m u b v} hm ha hu =>
    ⟨hu.1.trans (hkeep ha), (hask ha (hready m hm u hu.1 hu.2)).1, hkeep ha⟩) hfits hrun
  have hstart : Keeps s s ∧ I s := ⟨.refl s, hs⟩
  refine ⟨(hst hstart).2.1, hy.mono ?_⟩
  rintro m b ⟨hm, u, v, hsu, ha, hvt⟩
  obtain ⟨hku, hu, -⟩ := hsu hstart
  obtain ⟨hv, hd⟩ := hask ha (hready m hm u hku hu)
  obtain ⟨-, ht, hkt⟩ := hvt ⟨hku.trans (hkeep ha), hv⟩
  exact hgrow hv ht hkt hd

/-- A plan that does not come to its end keeps the invariant too, and there is a reason: a request that failed
    with the same error, of which `N` is true, or the plan fails by the answers it was given. -/
theorem Ready.run_error {ask : Location → Session → Outcome (Option JavaType)}
    {D : Session → Location → Option JavaType → Prop} {N : Location → Error → Prop}
    (hquiet : ∀ {u v}, Quiet u v → I u → I v) (hkeep : ∀ {m u r v}, ask m u = some (r, v) → Keeps u v)
    (hask : ∀ {m u b v}, ask m u = some (.ok b, v) → Ready w R I u m → I v ∧ D v m b)
    (herror : ∀ {m u e v}, ask m u = some (.error e, v) → Ready w R I u m → I v ∧ N m e)
    (hgrow : ∀ {u v m b}, I u → I v → Keeps u v → D u m b → D v m b) {P : Location → Prop}
    {Q : Option JavaType → Source → Prop} {plan : Plan} (hfits : plan.Fits P Q)
    (hready : ∀ m, P m → ∀ v, Keeps s v → I v → Ready w R I v m) (hs : I s) {e : Error}
    (hrun : plan.run ask s = some (.error e, t)) : I t ∧ ((∃ m, P m ∧ N m e) ∨ plan.Fails (D t) e) := by
  induction plan generalizing s with
  | done type source => cases hrun
  | fail e =>
    cases hrun
    exact ⟨hs, Or.inr .fail⟩
  | note entry next ih =>
    have hq := Quiet.note s entry
    obtain ⟨ht, hreason⟩ := ih hfits (fun m hm v hv => hready m hm v ((Keeps.of_quiet hq).trans hv)) (hquiet hq hs) hrun
    exact ⟨ht, hreason.imp_right .note⟩
  | request l next ih =>
    obtain ⟨hl, hfail, hnext⟩ := hfits
    have hl' := hready l hl s (.refl s) hs
    unfold Plan.run at hrun
    split at hrun
    · cases hrun
    · rename_i answer u ha
      have hsu := hkeep ha
      cases answer with
      | error e' =>
        rw [hfail e'] at hrun
        cases hrun
        obtain ⟨hu, hn⟩ := herror ha hl'
        exact ⟨hu, Or.inl ⟨l, hl, hn⟩⟩
      | ok b =>
        obtain ⟨hu, hb⟩ := hask ha hl'
        have hut := Keeps.steady.run hkeep hrun
        obtain ⟨ht, hreason⟩ := ih (.ok b) (hnext b) (fun m hm v hv => hready m hm v (hsu.trans hv)) hu hrun
        exact ⟨ht, hreason.imp_right (.request (hgrow hu ht hut hb))⟩

/-- Requests that are answered one after the other all keep the invariant, and what their answers say is true
    to the end. -/
theorem Ready.generatesAll {D : Session → Location → Option JavaType → Prop}
    (hgenerate : ∀ {n m u b v}, generateWithin n m u = some (.ok b, v) → Ready w R I u m → I v ∧ D v m b)
    (hgrow : ∀ {u v m b}, I u → I v → Keeps u v → D u m b → D v m b) {requests : List Location}
    {types : List (Option JavaType)} (hrequests : ∀ l ∈ requests, R l) (hs : I s)
    (hidle : ∀ p, s.record? p ≠ some .pending) (h : s.generateAll requests = some (.ok types, t)) :
    I t ∧ List.Forall₂ (D t) requests types := by
  induction requests generalizing s types with
  | nil =>
    cases h
    exact ⟨hs, .nil⟩
  | cons l rest ih =>
    unfold generateAll at h
    split at h
    · cases h
    · cases h
    · rename_i a u ha
      have hk := generateWithin_keeps ha
      obtain ⟨hu, hd⟩ := hgenerate ha (.idle hidle hs (hrequests l List.mem_cons_self))
      split at h
      · cases h
      · cases h
      · rename_i rest' v hrest
        cases h
        obtain ⟨ht, hall⟩ := ih (fun m hm => hrequests m (List.mem_cons_of_mem _ hm)) hu
          (fun p hp => hidle p (hk.pending hp)) hrest
        exact ⟨ht, .cons (hgrow hu ht (generateAll_keeps hrest) hd) hall⟩

end Ready

end Session

end SchemaBeans
