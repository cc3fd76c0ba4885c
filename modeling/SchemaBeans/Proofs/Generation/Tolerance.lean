import SchemaBeans.Proofs.Generation.Frames
import SchemaBeans.Proofs.Generation.Leftovers
import SchemaBeans.Proofs.Generation.Once

/-! Failures, reported and tolerated.

A request that fails leaves nothing pending that was not pending before. If missing types are ignored, the
location that fails is given the type bound to it instead, so a request that finds nothing pending never fails.
Where nothing fails it makes no difference whether missing types are ignored: the two runs go through the same
sessions, their features aside (`generateWithin_under`). -/

namespace SchemaBeans

open Java (Source)

namespace Session

open Setup (sales salesOrder salesInvoice)

/-! ### Pending locations -/

theorem Reachable.idle {s : Session} (h : Reachable s) : ∀ m, s.record? m ≠ some .pending := by
  induction h with
  | new catalog output files =>
    intro m hm
    cases hm
  | step _ hstep ih =>
    intro m hm
    rcases hstep.cases with ⟨hr, -, -⟩ | ⟨_, _, _, h⟩
    · rw [record?, hr] at hm
      exact ih m hm
    · exact ih m ((generateWithin_keeps h).pending hm)

theorem Responds.record?_of_error {ask : Location → Session → Outcome (Option JavaType)} {l : Location} {s t : Session}
    {e : Error} (h : Responds ask l s (.error e) t) (hnew : s.record? l = none) : t.record? l = none := by
  cases h with
  | pending hr _ _ =>
    rw [hnew] at hr
    cases hr
  | forgotten _ _ _ _ => exact record?_eraseRecord_self

/-- Whatever the generators do, and whether missing types are ignored or not, a request leaves exactly those
    locations pending that were pending before it. A location without a record that fails has none afterwards,
    and between the requests of a run nothing is pending. -/
theorem pending_restored {n : Nat} {l : Location} {s t : Session} {a : Answer}
    (h : generateWithin n l s = some (a, t)) :
    (∀ m, t.record? m = some .pending ↔ s.record? m = some .pending) ∧
    (∀ e, s.record? l = none → a = .error e → t.record? l = none) ∧
    (Reachable s → ∀ m, s.record? m ≠ some .pending ∧ t.record? m ≠ some .pending) := by
  have hkeeps := generateWithin_keeps h
  refine ⟨fun m => ⟨hkeeps.pending, hkeeps.record⟩, fun e hnew he => ?_, fun hs m => ?_⟩
  · subst he
    obtain ⟨_, u, -, hr, rfl⟩ := generateWithin_responds h
    exact hr.record?_of_error hnew
  · exact ⟨hs.idle m, (hs.step (.request h)).idle m⟩

/-- An order fails when its invoice is resolved already. -/
theorem pending_restored_sales : ∃ e t, salesSession.generate salesOrder = some (.error e, t) ∧
    (t.record? salesInvoice).isSome ∧ t.record? salesOrder = none ∧ ∀ m, t.record? m ≠ some .pending := by
  have hrun : (salesSession.generate salesOrder).map (fun r => (r.1.toBool, (r.2.record? salesInvoice).isSome)) =
      some (false, true) := by decide +kernel
  have hreach : Reachable salesSession := .new _ _ _
  obtain ⟨⟨a, t⟩, h, hpair⟩ := Option.map_eq_some_iff.mp hrun
  cases a with
  | ok x => cases hpair
  | error e =>
    obtain ⟨-, hnone, hidle⟩ := pending_restored h
    exact ⟨e, t, h, (Prod.mk.inj hpair).2, hnone e (setup_record? sales .empty _ _ _) rfl, fun m => (hidle hreach m).2⟩

/-! ### Tolerated failures -/

section Tolerant
variable {s t u : Session} {l : Location} {n : Nat}

/-- Where a location that was not asked for before fails, it is given the type bound to it. -/
theorem generateWithin_assumed (htolerant : s.features.value Feature.ignoreMissingTypes = true)
    (hnew : s.record? l = none) {e : Error}
    (hfail : produce (generateWithin n) l (s.bindType l).1 (s.marked l) = some (.error e, u)) :
    ∃ t, generateWithin (n + 1) l s = some (.ok (some (s.bindType l).1), t) ∧
      t.record? l = some (.failed (s.bindType l).1) := by
  have hkeeps : Keeps (s.marked l) u := Keeps.steady.produces generateWithin_keeps (produce_produces hfail)
  have hmarked : SameSetup s (s.marked l) := (s.marked_binds l).sameSetup _
  have hu : u.features.value Feature.ignoreMissingTypes = true := by
    rw [hkeeps.features, hmarked.features]
    exact htolerant
  have hresponse : ∃ v, respond (generateWithin n) l s = some (.ok (some (s.bindType l).1), v) ∧
      v.record? l = some (.failed (s.bindType l).1) := by
    simp only [marked] at hfail
    simp only [respond, hnew, hfail, giveUp, hu, if_true]
    exact ⟨_, rfl, record?_setRecord_self⟩
  obtain ⟨v, hv, hrecord⟩ := hresponse
  refine ⟨v.reply l (.ok (some (s.bindType l).1)), ?_, hrecord⟩
  rw [generateWithin, hv]

/-- Only a request for a pending location can fail. -/
theorem generateWithin_ok_of_tolerant (htolerant : s.features.value Feature.ignoreMissingTypes = true)
    (hl : s.record? l ≠ some .pending) {a : Answer} (h : generateWithin n l s = some (a, t)) : ∃ x, a = .ok x := by
  obtain ⟨k, v, -, hr, rfl⟩ := generateWithin_responds h
  cases hr with
  | resolved _ _ => exact ⟨_, rfl⟩
  | failed _ => exact ⟨_, rfl⟩
  | pending hp _ _ => exact absurd hp hl
  | settled _ _ _ => exact ⟨_, rfl⟩
  | assumed _ _ _ _ _ => exact ⟨_, rfl⟩
  | forgotten _ hb hp hstrict =>
    -- The feature has not changed since the request was made.
    have hkeeps := Keeps.steady.produces generateWithin_keeps hp
    rw [hkeeps.features, (hb.sameSetup _).features, htolerant] at hstrict
    cases hstrict

/-- If missing types are ignored and nothing is pending, no request fails, whatever the catalog and the generators
    are: it is answered by a type or by none as soon as the bound suffices, and there is such a bound if finitely
    many locations can be read and every generator completes its sources. A location without a record whose
    generation fails, also while others are pending, is answered with the type that was bound to it when it became
    pending, the one it was mapped to or the one found for it, and that is its record. -/
theorem tolerant_never_fails (htolerant : s.features.value Feature.ignoreMissingTypes = true) (l : Location) :
    ((∀ m, s.record? m ≠ some .pending) →
      (∀ n a t, generateWithin n l s = some (a, t) → ∃ x, a = .ok x) ∧
      ∀ places, s.Within places → s.generators.Closing → ∀ n, 2 * places.card + 1 ≤ n →
        ∃ x t, generateWithin n l s = some (.ok x, t)) ∧
    (s.record? l = none → ∀ n e u bound, (s.marked l).mappings.type? l = some bound →
      produce (generateWithin n) l bound (s.marked l) = some (.error e, u) →
      bound = (s.mappings.type? l).getD (s.names.unique (s.features.value Feature.defaultPackage) (typeName l)).1 ∧
      ∃ t, generateWithin (n + 1) l s = some (.ok (some bound), t) ∧ t.record? l = some (.failed bound)) := by
  refine ⟨fun hidle => ⟨fun n a t h => generateWithin_ok_of_tolerant htolerant (hidle l) h, ?_⟩, ?_⟩
  · intro places hwithin hclosing n hn
    have hfree : (s.free places).card ≤ places.card := Finset.card_filter_le _ _
    have hpending : s.isPending l = false := Bool.eq_false_iff.mpr fun hp => hidle l (isPending_iff.mp hp)
    have hsome : (generateWithin n l s).isSome := by
      refine generateWithin_isSome hwithin hclosing ?_
      rw [hpending, if_neg Bool.false_ne_true]
      omega
    obtain ⟨⟨a, t⟩, h⟩ := Option.isSome_iff_exists.mp hsome
    obtain ⟨x, rfl⟩ := generateWithin_ok_of_tolerant htolerant (hidle l) h
    exact ⟨x, t, h⟩
  · intro hnew n e u bound hbound hfail
    cases (marked_type? s l).symm.trans hbound
    exact ⟨bindType_type s l, generateWithin_assumed htolerant hnew hfail⟩

end Tolerant

/-- The date on which an order is due. -/
def salesDue : Location := (salesOrder.child "properties").child "due"

/-- A session for orders and invoices that ignores missing types. -/
def tolerantSales : Session :=
  sales.start ⟨[(Feature.ignoreMissingTypes.key, .bool true)]⟩ (.memory .empty []) ⟨"/", []⟩

/-- An order is answered, and the date for which there is no generator has the type found for it. -/
theorem tolerant_never_fails_sales : (∃ n x t, generateWithin n salesOrder tolerantSales = some (.ok x, t)) ∧
    ∃ n t, generateWithin n salesDue tolerantSales = some (.ok (some (.plain "anonymous" "OrderDue")), t) ∧
      t.record? salesDue = some (.failed (.plain "anonymous" "OrderDue")) := by
  have htolerant : tolerantSales.features.value Feature.ignoreMissingTypes = true := by decide
  have hstandard := Standard.start sales tolerantSales.features (.memory .empty []) ⟨"/", []⟩
  have hnew : ∀ m, tolerantSales.record? m = none := fun m => setup_record? sales _ _ _ m
  have hidle : ∀ m, tolerantSales.record? m ≠ some .pending := fun m hm => by
    rw [hnew] at hm
    cases hm
  have hbound : (tolerantSales.marked salesDue).mappings.type? salesDue = some (.plain "anonymous" "OrderDue") := by
    decide +kernel
  have hrun : (produce (generateWithin 0) salesDue (.plain "anonymous" "OrderDue") (tolerantSales.marked salesDue)).map
      (fun r => r.1.toBool) = some false := by decide +kernel
  obtain ⟨⟨a, u⟩, hfail, hfalse⟩ := Option.map_eq_some_iff.mp hrun
  cases a with
  | ok x => cases hfalse
  | error e =>
    obtain ⟨horder, -⟩ := tolerant_never_fails htolerant salesOrder
    obtain ⟨-, hdue⟩ := tolerant_never_fails htolerant salesDue
    obtain ⟨-, t, hanswer, hrecord⟩ := hdue (hnew _) 0 e u _ hbound hfail
    have hwithin := hstandard.documents.within
    exact ⟨⟨_, (horder hidle).2 _ hwithin (hstandard.generators ▸ Generators.standard_closing) _ (le_refl _)⟩,
      1, t, hanswer, hrecord⟩

end Session

/-! ### Features that agree -/

/-- The features agree on everything that generation reads, except on whether missing types are ignored. -/
structure Features.Agree (f g : Features) : Prop where
  package : g.value Feature.defaultPackage = f.value Feature.defaultPackage
  style : g.value Feature.enumStyle = f.value Feature.enumStyle
  plain : g.value Feature.simplePlainTypes = f.value Feature.simplePlainTypes

theorem Features.value_set_of_ne {α β : Type} [FeatureType α] [FeatureType β] {f g : Features} {feature : Feature α}
    {value previous : α} {other : Feature β} (h : f.set feature value = .ok (previous, g)) (hne : other.key ≠ feature.key) :
    g.value other = f.value other := by
  unfold Features.set at h
  split at h <;> cases h
  simp only [Features.value, Features.get, Table.get?_put_of_ne _ _ hne]

theorem Features.agree_set {f g : Features} {value previous : Bool}
    (h : f.set Feature.ignoreMissingTypes value = .ok (previous, g)) : f.Agree g :=
  ⟨value_set_of_ne h (by decide), value_set_of_ne h (by decide), value_set_of_ne h (by decide)⟩

theorem Generators.standard_agree {kind : String} {generator : Generator} {f g : Features} (hfg : f.Agree g)
    (h : Generators.standard.get? kind = some generator) (l : Location) (requested : JavaType) (node : Json) :
    generator ⟨l, requested, node, g⟩ = generator ⟨l, requested, node, f⟩ := by
  rcases standard_cases h with ⟨-, rfl⟩ | ⟨-, rfl⟩ | ⟨-, rfl⟩ | ⟨t, rfl, -⟩
  · rfl
  · rfl
  · simp only [Generator.string, hfg.plain, hfg.style]
  · rfl

namespace Session

/-! ### Other features -/

/-- The session with other features. -/
def under (s : Session) (g : Features) : Session := { s with features := g }

section Under
variable {g : Features} {s t : Session} {l : Location}

theorem resolve_under (s : Session) (l : Location) (g : Features) :
    (s.under g).resolve l = ((s.resolve l).1, (s.resolve l).2.under g) := rfl

theorem amended_under {names : Names} {mappings : Mappings} (hn : s.names = names) (hm : s.mappings = mappings) :
    s.amended g names mappings = s.under g := by
  subst hn hm
  rfl

theorem walk_under (g : Features) {fuel : Nat} {seen : List Location} {lists : Nat} {r : Except Error Walk}
    (h : walk fuel seen lists l s = (r, t)) : walk fuel seen lists l (s.under g) = (r, t.under g) := by
  have hq := walk_quiet h
  have hwalk := walk_amended g s.names s.mappings fuel seen lists l s
  rwa [h, amended_under hq.names hq.mappings] at hwalk

theorem bindType_under (hfg : s.features.Agree g) (l : Location) :
    (s.under g).bindType l = ((s.bindType l).1, (s.bindType l).2.1, (s.bindType l).2.2.under g) := by
  have hmappings : (s.under g).mappings = s.mappings := rfl
  have hpackage : (s.under g).features.value Feature.defaultPackage = s.features.value Feature.defaultPackage := hfg.package
  unfold bindType
  rw [hmappings, hpackage]
  split <;> rfl

theorem opened_under (s : Session) (l : Location) (node : Json) (g : Features) :
    (s.under g).opened l node = (s.opened l node).under g := by
  have hq := opened_quiet s l node
  have hopened := opened_amended g s.names s.mappings s l node
  rwa [amended_under hq.names hq.mappings] at hopened

theorem settle_under (s : Session) (l : Location) (bound : JavaType) (isNew : Bool) (a : Option JavaType) (g : Features) :
    (s.under g).settle l bound isNew a = (s.settle l bound isNew a).under g := by
  unfold settle
  split <;> rfl

theorem write_under {x : JavaType} {text : String} {r : Except Error Unit} (g : Features)
    (h : s.write l x text = (r, t)) : (s.under g).write l x text = (r, t.under g) := by
  have hn : t.names = s.names := by rw [write_frame h]
  have hm : t.mappings = s.mappings := by rw [write_frame h]
  have hwrite := write_amended g s.names s.mappings s l x text
  rwa [h, amended_under hn hm] at hwrite

end Under

/-! ### Runs without failures -/

section Ask
variable {ask ask' : Location → Session → Outcome (Option JavaType)} {f g : Features}
  (hask : ∀ l s a t, ask l s = some (.ok a, t) → s.features = f → s.generators = .standard →
    ask' l (s.under g) = some (.ok a, t.under g))
  (hkeep : ∀ l s a t, ask l s = some (a, t) → Keeps s t)
include hask

theorem pendingType_under {l : Location} {s t : Session} {a : Option JavaType} (hf : s.features = f)
    (hg : s.generators = .standard) (h : pendingType ask l s = some (.ok a, t)) :
    pendingType ask' l (s.under g) = some (.ok a, t.under g) := by
  have hrecords : (s.under g).records = s.records := rfl
  unfold pendingType at h ⊢
  rw [hrecords]
  rcases hw : walk (s.records.length + 1) [] 0 l s with ⟨_ | _ | ⟨target, lists⟩, u⟩
  · rw [hw] at h
    cases h
  · rw [hw] at h
    rw [walk_under g hw]
    cases h
    rfl
  · have hq := walk_quiet hw
    rw [hw] at h
    rw [walk_under g hw]
    dsimp only at h ⊢
    by_cases hl : target = l
    · rw [if_pos hl] at h ⊢
      cases h
      rfl
    · have hpending : (u.under g).isPending target = u.isPending target := rfl
      have hmappings : (u.under g).mappings = u.mappings := rfl
      rw [if_neg hl] at h ⊢
      rw [hpending, hmappings]
      by_cases hp : u.isPending target = true
      · simp only [hp, if_true] at h ⊢
        cases hx : u.mappings.type? target <;> rw [hx] at h <;> cases h <;> rfl
      · simp only [hp, Bool.false_eq_true, if_false] at h ⊢
        rcases ha : ask target u with _ | ⟨_ | b, v⟩ <;> rw [ha] at h
        · cases h
        · cases h
        · rw [hask _ _ _ _ ha (hq.features.trans hf) (hq.generators.trans hg)]
          cases b <;> cases h <;> rfl

include hkeep

/-- A plan that passes errors on and comes to its end was given no error. -/
theorem run_under {P : Location → Prop} {Q : Option JavaType → Source → Prop} {plan : Plan} (hfits : plan.Fits P Q)
    {s t : Session} {a : Option JavaType} {source : Source} (hf : s.features = f) (hg : s.generators = .standard)
    (h : plan.run ask s = some (.ok (a, source), t)) : plan.run ask' (s.under g) = some (.ok (a, source), t.under g) := by
  induction plan generalizing s with
  | done type source =>
    cases h
    rfl
  | fail e => cases h
  | note entry next ih =>
    unfold Plan.run at h ⊢
    have hq := Quiet.note s entry
    exact ih hfits (hq.features.trans hf) (hq.generators.trans hg) h
  | request l next ih =>
    obtain ⟨-, hfail, hnext⟩ := hfits
    unfold Plan.run at h ⊢
    rcases ha : ask l s with _ | ⟨e | b, u⟩ <;> rw [ha] at h <;> dsimp only at h
    · cases h
    -- The plan passes an error on, and would not have come to its end.
    · rw [hfail e] at h
      cases h
    · have hk := hkeep _ _ _ _ ha
      rw [hask _ _ _ _ ha hf hg]
      exact ih (.ok b) (hnext b) (hk.features.trans hf) (hk.generators.trans hg) h

theorem perform_under {kind : String} {generator : Generator} {l : Location} {requested : JavaType} {node : Json}
    {s t : Session} {a : Option JavaType} (hfg : f.Agree g) (hgen : Generators.standard.get? kind = some generator)
    (hk : Kind.of l node = .ok (some kind)) (hf : s.features = f) (hg : s.generators = .standard)
    (h : perform ask generator ⟨l, requested, node, f⟩ s = some (.ok a, t)) :
    perform ask' generator ⟨l, requested, node, g⟩ (s.under g) = some (.ok a, t.under g) := by
  have hfits := @Generators.standard_fits kind generator ⟨l, requested, node, f⟩ hgen hk
  unfold perform at h ⊢
  rw [Generators.standard_agree hfg hgen]
  split at h
  · cases h
  · cases h
  · rename_i b source u hrun
    rw [run_under hask hkeep hfits hf hg hrun]
    dsimp only at h ⊢
    by_cases hempty : source.isEmpty = true
    · rw [if_pos hempty] at h ⊢
      cases h
      rfl
    · rw [if_neg hempty] at h ⊢
      split at h
      · cases h
      · split at h <;> rename_i hwrite <;> cases h
        rw [write_under g hwrite]

theorem produce_under {l : Location} {requested : JavaType} {s t : Session} {a : Option JavaType} (hfg : f.Agree g)
    (hf : s.features = f) (hg : s.generators = .standard) (h : produce ask l requested s = some (.ok a, t)) :
    produce ask' l requested (s.under g) = some (.ok a, t.under g) := by
  have hgiven : (s.under g).isGiven requested = s.isGiven requested := rfl
  have hgenerators : (s.under g).generators = s.generators := rfl
  rw [produce_eq] at h ⊢
  rw [hgiven, resolve_under, hgenerators]
  by_cases hgiven : s.isGiven requested = true
  · rw [if_pos hgiven] at h ⊢
    cases h
    rfl
  · rw [if_neg hgiven] at h ⊢
    dsimp only
    split at h
    · cases h
    · rename_i node _
      split at h
      · cases h
      · rename_i target _
        have hq := redirected_quiet s l target
        exact hask _ _ _ _ h (hq.features.trans hf) (hq.generators.trans hg)
      · have hq := opened_quiet s l node
        by_cases hobject : (!node.isObject) = true
        · rw [if_pos hobject] at h
          cases h
        · rw [if_neg hobject] at h ⊢
          rw [opened_under]
          split at h
          · cases h
          · cases h
            rfl
          · rename_i kind hk
            split at h
            · cases h
            · rename_i generator hgen
              rw [hg] at hgen
              rw [task, hf] at h
              exact perform_under hask hkeep hfg hgen hk (hq.features.trans hf) (hq.generators.trans hg) h

/-- In a session that does not ignore missing types a request that is answered has met no failure, so it never
    comes to the point where the features are asked whether they are ignored. -/
theorem respond_under {l : Location} {s t : Session} {a : Option JavaType} (hfg : f.Agree g)
    (hstrict : f.value Feature.ignoreMissingTypes = false) (hf : s.features = f) (hg : s.generators = .standard)
    (h : respond ask l s = some (.ok a, t)) : respond ask' l (s.under g) = some (.ok a, t.under g) := by
  have hrecord : (s.under g).record? l = s.record? l := rfl
  unfold respond at h ⊢
  rw [hrecord]
  split at h
  · cases h
    rfl
  · cases h
    rfl
  · have hq := Quiet.say s .debug (l.text ++ ": in progress")
    exact pendingType_under hask (hq.features.trans hf) (hq.generators.trans hg) h
  · rcases hb : s.bindType l with ⟨bound, isNew, v⟩
    have hsame := (bindType_binds hb).sameSetup .pending
    have hmarked : ((v.under g).setRecord l .pending) = (v.setRecord l .pending).under g := rfl
    have hfg' : s.features.Agree g := hf ▸ hfg
    rw [bindType_under hfg', hb]
    dsimp only
    rw [hmarked]
    simp only [hb] at h
    split at h
    · cases h
    · rename_i hp
      cases h
      rw [produce_under hask hkeep hfg (hsame.features.trans hf) (hsame.generators.trans hg) hp]
      dsimp only
      rw [settle_under]
    · rename_i e u hp
      -- Where the one session fails, it has no answer to compare.
      have hk := Keeps.steady.produces (fun ha => hkeep _ _ _ _ ha) (produce_produces hp)
      have hstrict' : u.features.value Feature.ignoreMissingTypes = false := by
        rw [hk.features, hsame.features, hf]
        exact hstrict
      simp only [giveUp, hstrict', Bool.false_eq_true, if_false] at h
      cases h

end Ask

theorem generateWithin_under {n : Nat} {l : Location} {s t : Session} {a : Option JavaType} {f g : Features}
    (hfg : f.Agree g) (hstrict : f.value Feature.ignoreMissingTypes = false) (hf : s.features = f)
    (hg : s.generators = .standard) (h : generateWithin n l s = some (.ok a, t)) :
    generateWithin n l (s.under g) = some (.ok a, t.under g) := by
  induction n generalizing l s a t with
  | zero => cases h
  | succ n ih =>
    unfold generateWithin at h ⊢
    split at h
    · cases h
    · rename_i hr
      cases h
      rw [respond_under (fun _ _ _ _ ha hf hg => ih hf hg ha) (fun _ _ _ _ => generateWithin_keeps) hfg hstrict hf hg hr]
      rfl

theorem generateAll_under {requests : List Location} {s t : Session} {types : List (Option JavaType)} {f g : Features}
    (hfg : f.Agree g) (hstrict : f.value Feature.ignoreMissingTypes = false) (hf : s.features = f)
    (hg : s.generators = .standard) (h : s.generateAll requests = some (.ok types, t)) :
    (s.under g).generateAll requests = some (.ok types, t.under g) := by
  induction requests generalizing s types with
  | nil =>
    cases h
    rfl
  | cons l rest ih =>
    unfold generateAll at h ⊢
    split at h
    · cases h
    · cases h
    · rename_i a u ha
      have hk := generateWithin_keeps ha
      have hdepth : (s.under g).depth = s.depth := rfl
      rw [generate, hdepth, generateWithin_under hfg hstrict hf hg ha]
      dsimp only
      split at h
      · cases h
      · cases h
      · rename_i hrest
        cases h
        rw [ih (hk.features.trans hf) (hk.generators.trans hg) hrest]

/-- Requests that are all answered when missing types are not ignored are answered in the same way when they are:
    with the built-in generators, whatever has happened before, the two runs end with the same answers, records,
    mappings, names, journal and sources in the same order, and differ in that feature only. -/
theorem ignoring_conservative {s s' t : Session} (hg : s.generators = .standard)
    (hset : s.setFeature Feature.ignoreMissingTypes true = .ok (false, s')) {requests : List Location}
    {types : List (Option JavaType)} (h : s.generateAll requests = some (.ok types, t)) :
    s'.features.value Feature.ignoreMissingTypes = true ∧
    s'.generateAll requests = some (.ok types, { t with features := s'.features }) := by
  unfold setFeature at hset
  rcases hf : s.features.set Feature.ignoreMissingTypes true with e | ⟨previous, g⟩ <;> rw [hf] at hset <;> cases hset
  have hagree : s.features.Agree g := Features.agree_set hf
  have hvalues : s.features.value Feature.ignoreMissingTypes = false ∧ g.value Feature.ignoreMissingTypes = true := by
    unfold Features.set at hf
    split at hf <;> cases hf
    rename_i hprevious
    refine ⟨by rw [Features.value, hprevious], ?_⟩
    simp only [Features.value, Features.get, Table.get?_put_self]
    rfl
  exact ⟨hvalues.2, generateAll_under hagree hvalues.1 rfl hg h⟩

/-- Linked nodes are generated in the same way whether missing types are ignored or not. -/
theorem ignoring_conservative_linked : ∃ s' types t,
    linked.setFeature Feature.ignoreMissingTypes true = .ok (false, s') ∧
    linked.generateAll [linkedNode, linkedNode.child "properties"] = some (.ok types, t) ∧
    s'.generateAll [linkedNode, linkedNode.child "properties"] = some (.ok types, { t with features := s'.features }) := by
  have hrun : (linked.generateAll [linkedNode, linkedNode.child "properties"]).map (fun r => r.1.toBool) =
      some true := by decide +kernel
  obtain ⟨⟨r, t⟩, h, hok⟩ := Option.map_eq_some_iff.mp hrun
  cases r with
  | error e => cases hok
  | ok types => exact ⟨_, types, t, rfl, h, (ignoring_conservative rfl rfl h).2⟩

end Session

end SchemaBeans
