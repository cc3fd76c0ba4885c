import SchemaBeans.Proofs.Generation.Reservation

/-! Names stay with the locations they were found for.

A pending location hands out its own type if it is an object, or if it lies on a circle of references and arrays. An
object keeps its type. A location on a circle of references alone is answered with the type that was handed out, and
keeps it too. So the name of a type that was handed out stays with its location for the rest of the run, unless the
location lies on a circle through an array: then it is answered with a list, and the name is given back although it
is in use. No other location is found it even then, if only locations on the circle have such a name. -/

namespace SchemaBeans

open Java (Source)

/-! ### Types in the default package -/

namespace JavaType
variable {x y : JavaType}

theorem occursIn_of_boxed (hx : x.package = Feature.defaultPackage.default) (h : x.OccursIn y.boxed) : x.OccursIn y := by
  unfold boxed at h
  split at h
  · cases h with
    | self =>
      have hlang : langPackage ≠ Feature.defaultPackage.default := by decide
      exact absurd hx hlang
    | argument ha _ => cases ha
  · exact h

theorem package_listOf_ne : y.listOf.package ≠ Feature.defaultPackage.default := by
  have hutil : "java.util" ≠ Feature.defaultPackage.default := by decide
  exact hutil

theorem occursIn_of_listOf (hx : x.package = Feature.defaultPackage.default) (h : x.OccursIn y.listOf) : x.OccursIn y := by
  cases h with
  | self => exact absurd hx package_listOf_ne
  | argument ha h =>
    obtain rfl := List.mem_singleton.mp ha
    exact occursIn_of_boxed hx h

theorem occursIn_of_nested {n : Nat} (hx : x.package = Feature.defaultPackage.default)
    (h : x.OccursIn (Session.nested n y)) : x.OccursIn y := by
  induction n with
  | zero => exact h
  | succ n ih =>
    rw [Session.nested_succ] at h
    exact ih (occursIn_of_listOf hx h)

theorem not_occursIn_basic (hx : x.package = Feature.defaultPackage.default)
    (hy : y = .string ∨ y = .long ∨ y = .double ∨ y = .boolean) : ¬x.OccursIn y := by
  intro h
  have harguments : y.arguments = [] := by rcases hy with rfl | rfl | rfl | rfl <;> rfl
  have hpackage : y.package ≠ Feature.defaultPackage.default := by rcases hy with rfl | rfl | rfl | rfl <;> decide
  cases h with
  | self => exact hpackage hx
  | argument ha _ =>
    rw [harguments] at ha
    cases ha

end JavaType

namespace Setup
variable {w : Setup} {l m : Location}

/-- What stands between the angle brackets of a type that a location is mapped to lies in other packages than the
    types that are found for locations. -/
def Foreign (w : Setup) : Prop :=
  ∀ {l t a} {x : JavaType}, w.configured.type? l = some t → a ∈ t.arguments → x.OccursIn a →
    x.package ≠ Feature.defaultPackage.default

theorem exists_leads (h : Relation.ReflTransGen w.Hop l m) : ∃ n, w.Leads l n m := by
  induction h using Relation.ReflTransGen.head_induction_on with
  | refl => exact ⟨0, .here m⟩
  | head hop _ ih =>
    obtain ⟨n, hn⟩ := ih
    rcases hop with hr | hl
    · exact ⟨n, .reference hr hn⟩
    · exact ⟨n + 1, .items hl hn⟩

theorem ListFree.refers (h : w.ListFree l) (hcycle : Relation.TransGen w.Hop l l) : ∃ m, w.Refers l m ∧ w.Leads m 0 l := by
  obtain ⟨m, hop, hback⟩ := Relation.TransGen.head'_iff.mp hcycle
  obtain ⟨n, hn⟩ := exists_leads hback
  rcases hop with hr | hl
  · cases h n (.reference hr hn)
    exact ⟨m, hr, hn⟩
  · cases h (n + 1) (.items hl hn)

end Setup

namespace Session
variable {w : Setup} {R : Location → Prop} {s t u : Session} {l m p : Location} {x y bound : JavaType} {isNew : Bool}
  {a : Option JavaType}

theorem Standard.occurs (h : s.Standard w .empty) (hforeign : w.Foreign) (hy : s.mappings.type? l = some y)
    (hx : x.OccursIn y) (hdefault : x.package = Feature.defaultPackage.default) : x = y := by
  cases hx with
  | self => rfl
  | argument ha hx =>
    rcases h.named hy with hc | ⟨-, -, hnone⟩
    · exact absurd hdefault (hforeign hc ha hx)
    · rw [hnone] at ha
      cases ha

/-! ### New locations -/

section Produce
variable {ask : Location → Session → Outcome (Option JavaType)} {r : Answer} (hs : s.Standard w .empty)
  (hbound : s.mappings.type? l = some bound)
include hs hbound

theorem Produces.of_refers (h : Produces ask l bound s r t) (hr : w.Refers l m) :
    ask m (s.redirected l m) = some (r, t) := by
  have hschema : ∀ {node}, s.isGiven bound = false → ¬s.Reads l node :=
    fun hg hreads => hr.not_schema (hs.schema hbound hg hreads)
  cases h with
  | given hg => exact absurd ((hs.isGiven_iff hbound).mp hg) (hr.unpinned _)
  | refused _ hstuck _ => exact absurd hr ((hs.stuck hstuck).1 m)
  | reference hg hn ht ha => exact hr.unique (hs.refers hbound hg hn ht) ▸ ha
  | null hg hreads _ => exact absurd hreads (hschema hg)
  | failed hg hd _ => exact absurd hd.reads (hschema hg)
  | silent hg hd _ _ => exact absurd hd.reads (hschema hg)
  | unwritten hg hd _ _ _ _ => exact absurd hd.reads (hschema hg)
  | written hg hd _ _ _ _ => exact absurd hd.reads (hschema hg)

/-- A generator that comes to its end does so with answers that were given from its first session to its last. -/
theorem Dispatches.yields {P : Session → Session → Prop} (hP : Calm P)
    (hask : ∀ {m u r v}, ask m u = some (r, v) → P u v) {node : Json} {generator : Generator} {source : Source}
    (hg : s.isGiven bound = false) (hd : s.Dispatches l node generator)
    (hrun : (generator (s.task l bound node)).run ask (s.opened l node) = some (.ok (a, source), t)) :
    ∃ kind, w.Schema l node ∧ Kind.of l node = .ok (some kind) ∧ Generators.standard.get? kind = some generator ∧
      (generator ⟨l, bound, node, .empty⟩).Yields (fun m b => ∃ u v, ask m u = some (.ok b, v) ∧ P v t) a source := by
  obtain ⟨kind, hschema, hk, hgen⟩ := hs.dispatches hbound hg hd
  rw [task, hs.features] at hrun
  have hfits := @Generators.standard_fits kind generator ⟨l, bound, node, .empty⟩ hgen hk
  obtain ⟨-, hy⟩ := hP.run_yields (fun _ ha => hask ha) hfits hrun
  refine ⟨kind, hschema, hk, hgen, hy.mono ?_⟩
  rintro m b ⟨-, u, v, -, ha, hvt⟩
  exact ⟨u, v, ha, hvt⟩

theorem Produces.of_emits (h : Produces ask l bound s (.ok a) t) (he : w.Emits l) : a = some bound := by
  have hplan : ∀ {node generator source u}, s.isGiven bound = false → s.Dispatches l node generator →
      (generator (s.task l bound node)).run ask (s.opened l node) = some (.ok (a, source), u) → a = some bound := by
    intro node generator source u hg hd hrun
    have hcalm : Calm fun _ _ => True := ⟨fun _ _ => trivial, fun _ => trivial⟩
    obtain ⟨kind, hschema, hk, hgen, hy⟩ := hd.yields hs hbound hcalm (fun _ => trivial) hg hrun
    exact Setup.emits_requested hschema hk hgen he hy
  cases h with
  | given _ => rfl
  | reference hg hn ht _ => exact absurd (hs.refers hbound hg hn ht) he.not_refers
  | null hg hreads hk => exact absurd he (Setup.Plain.not_emits (.null hk) (hs.schema hbound hg hreads))
  | silent hg hd hrun _ => exact hplan hg hd hrun
  | written hg hd hrun _ _ _ => exact hplan hg hd hrun

/-- What occurs in the answer for a location was handed out before, unless it is the location's own type. -/
theorem Produces.occurs {n : Nat} (hforeign : w.Foreign) (h : Produces (generateWithin n) l bound s (.ok (some y)) t)
    (hx : x.OccursIn y) (hdefault : x.package = Feature.defaultPackage.default) :
    t.Mentions x ∨ (y = bound ∧ x = bound ∧ w.Emits l) := by
  have hjournal : ∀ {m u r v}, generateWithin n m u = some (r, v) → u.journal ⊆ v.journal :=
    fun ha => (generateWithin_journal ha).1
  cases h with
  | given hg =>
    cases hs.occurs hforeign hbound hx hdefault
    -- A type of the default package is not one that is there already.
    rw [isGiven, hs.known, not_given_of_default hdefault] at hg
    cases hg
  | reference _ _ _ ha => exact Or.inl ⟨_, y, (generateWithin_journal ha).2, hx⟩
  | @silent node _ _ _ _ hg hd hrun hempty =>
    obtain ⟨kind, -, hk, hgen, hy⟩ := hd.yields hs hbound journal_steady.toCalm hjournal hg hrun
    have hends := @Generator.standard_ends _ ⟨l, bound, node, .empty⟩ _ _ _ _ hgen hk hy
    -- What is answered without a source is basic, or a list of what was handed out for the items.
    obtain ⟨-, _, hsome, hbasic | ⟨target, z, ⟨u, v, ha, hvt⟩, rfl⟩⟩ := hends.silent hempty <;> cases hsome
    · exact absurd hx (JavaType.not_occursIn_basic hdefault hbasic)
    · exact Or.inl ⟨target, z, hvt (generateWithin_journal ha).2, JavaType.occursIn_of_listOf hdefault hx⟩
  | written hg hd hrun hfull _ _ =>
    obtain ⟨kind, hschema, hk, hgen, hy⟩ := hd.yields hs hbound journal_steady.toCalm hjournal hg hrun
    have hemits := Setup.emits_of_source hschema hk hgen hy hfull
    cases Setup.emits_requested hschema hk hgen hemits hy
    exact Or.inr ⟨rfl, hs.occurs hforeign hbound hx hdefault, hemits⟩

end Produce

/-! ### What is handed out is kept -/

section Kept
variable {n : Nat} (hforeign : w.Foreign) (hspared : w.Spared R) (hR : ∀ {m m'}, R m → w.Needs m m' → R m')
include hforeign hspared hR

/-- Asked for a location that refers back to a pending one, a session either does not hand out the type of the pending
    location or answers with it. -/
theorem answer_of_circle (hready : Ready w R (Guarded w R) s m) (hlead : w.Leads m 0 l)
    (hcycle : Relation.TransGen w.Hop l l) (hl : s.record? l = some .pending) (hc : w.configured.type? l = none)
    (hx : s.mappings.type? l = some x) (hunsaid : ¬s.Mentions x) (h : generateWithin n m s = some (.ok a, t))
    (hsaid : t.Mentions x) : a = some x := by
  induction n generalizing m s a t with
  | zero => cases h
  | succ n ih =>
    obtain ⟨_, u, hn, hr, rfl⟩ := generateWithin_responds h
    cases hn
    have hs := hready.holds
    have hdefault := hs.default hc hx
    -- The type is handed out while the answer is found, or with the answer itself.
    have hanswer : u.Mentions x ∨ ∃ y, a = some y ∧ x.OccursIn y := by
      obtain ⟨p, y, he, hxy⟩ := hsaid
      rcases List.mem_cons.mp he with he | he
      · cases he
        exact Or.inr ⟨y, rfl, hxy⟩
      · exact Or.inl ⟨p, y, he, hxy⟩
    have hquiet : ∀ {v}, Quiet s v → ¬v.Mentions x := fun hq hv => hunsaid (hv.mono fun _ he => by rwa [hq.journal] at he)
    cases hr with
    -- An answer that was given before hands out nothing new.
    | resolved hr hq =>
      obtain ⟨y, rfl, hxy⟩ := hanswer.resolve_left (hquiet hq)
      exact absurd ⟨m, y, hs.told hr rfl, hxy⟩ hunsaid
    | failed hr =>
      obtain ⟨y, hy, hxy⟩ := hanswer.resolve_left hunsaid
      exact absurd ⟨m, y, hy ▸ hs.told hr rfl, hxy⟩ hunsaid
    | @pending _ v _ hr hq hst =>
      obtain ⟨hq', hcase⟩ := hst.waiting (hs.quiet hq).documents (hready.waits.keep (.of_quiet hq)) ((hq.record? m).trans hr)
      obtain ⟨y, rfl, hxy⟩ := hanswer.resolve_left (hquiet (hq.trans hq'))
      rcases hcase with ⟨hy, -⟩ | ⟨target, k, z, -, hobject, hleads, -⟩
      -- The answer is the type bound to `m`, in which only itself can occur.
      · have hbound : s.mappings.type? m = some y := by
          rw [← hq.mappings]
          exact (Except.ok.inj hy).symm
        rw [hs.occurs hforeign hbound hxy hdefault]
      · exact absurd hcycle (hobject.not_circular hleads.hops hlead.hops)
    | @settled bound isNew _ v u hnew hb hp =>
      cases hlead with
      | here =>
        rw [hnew] at hl
        cases hl
      | @reference _ m' _ _ hrefers hlead =>
        have hmarked := hs.mark hspared hready.reached hnew hb
        have hlm : l ≠ m := by
          rintro rfl
          rw [hnew] at hl
          cases hl
        have hq := redirected_quiet (v.setRecord m .pending) m m'
        have ha := hp.of_refers hmarked.toStandard hb.type?_self hrefers
        refine ih (hready.redirect hR hnew hb hrefers (hmarked.quiet hq)) hlead ?_ ?_
          (fun hm => hunsaid (.of_mark hb hq hm)) ha ?_
        · rw [hq.record?, hb.record?_mark_of_ne hlm, hl]
        · rw [hq.mappings]
          exact (hb.type?_of_ne hlm).trans hx
        · rcases hanswer with ⟨p, y, he, hxy⟩ | ⟨y, rfl, hxy⟩
          · rw [journal_settle] at he
            rcases List.mem_cons.mp he with he | he
            · cases he
            · exact ⟨p, y, he, hxy⟩
          · exact ⟨m', y, (generateWithin_journal ha).2, hxy⟩
    | assumed _ hb hp hf _ =>
      rw [(Keeps.steady.produces generateWithin_keeps hp).features, (hs.toStandard.mark hb _).features] at hf
      cases hf

/-- A type that was found for a location, and has been handed out by the time the location is answered, is the answer. -/
theorem answer_of_mentions (hlist : w.ListFree l) (hready : Ready w R (Guarded w R) s l) (hnew : s.record? l = none)
    (hb : Binds s l bound true t) (hp : Produces (generateWithin n) l bound (t.setRecord l .pending) (.ok a) u)
    (hu : Reserved w R u) (hsaid : u.Mentions bound) : a = some bound := by
  have hmarked := hready.holds.mark hspared hready.reached hnew hb
  have hc := hb.unmapped hready.holds.toStandard rfl
  have htype := ((Keeps.steady.produces generateWithin_keeps hp).type record?_setRecord_self).trans hb.type?_self
  rcases hu.own hc htype hsaid with hemits | hcycle
  · exact hp.of_emits hmarked.toStandard hb.type?_self hemits
  · obtain ⟨m, hrefers, hlead⟩ := hlist.refers hcycle
    have hq := redirected_quiet (t.setRecord l .pending) l m
    have ha := hp.of_refers hmarked.toStandard hb.type?_self hrefers
    have hunsaid : ¬s.Mentions bound := fun hm =>
      hready.holds.fresh hready.holds.toOwns hspared hready.reached hnew hb hm rfl
    refine answer_of_circle hforeign hspared hR (hready.redirect hR hnew hb hrefers (hmarked.quiet hq)) hlead hcycle ?_
      hc ?_ (fun hm => hunsaid (.of_mark hb hq hm)) ha hsaid
    · rw [hq.record?, record?_setRecord_self]
    · rw [hq.mappings]
      exact hb.type?_self

end Kept

/-! ### Requests -/

section Request
variable {n : Nat} {r : Answer} (hforeign : w.Foreign) (hspared : w.Spared R)
  (hR : ∀ {m m'}, R m → w.Needs m m' → R m')
  (hask : ∀ {m u r v}, generateWithin n m u = some (r, v) → Ready w R (Guarded w R) u m →
    Guarded w R v ∧ Threads (Retains w R) u (moments n m u) v)

include hask in
theorem Guarded.run {P : Location → Prop} {Q : Option JavaType → Source → Prop} {plan : Plan}
    {r : Except Error (Option JavaType × Source)} (hfits : plan.Fits P Q)
    (hready : ∀ m, P m → ∀ v, Keeps s v → Guarded w R v → Ready w R (Guarded w R) v m) (hs : Guarded w R s)
    (hrun : plan.run (generateWithin n) s = some (r, t)) : Guarded w R t ∧
      Threads (Retains w R) s ((plan.requests (generateWithin n) s).flatMap fun q => moments n q.1 q.2) t := by
  induction plan generalizing s with
  | done type source =>
    cases hrun
    exact ⟨hs, Retains.skip hs.apart (Quiet.refl _)⟩
  | fail e =>
    cases hrun
    exact ⟨hs, Retains.skip hs.apart (Quiet.refl _)⟩
  | note entry next ih =>
    have hq := Quiet.note s entry
    obtain ⟨ht, hpath⟩ := ih hfits (fun m hm v hv => hready m hm v ((Keeps.of_quiet hq).trans hv)) (hs.quiet hq) hrun
    exact ⟨ht, Retains.after hs.apart hq hpath⟩
  | request l next ih =>
    obtain ⟨hl, hfail, hnext⟩ := hfits
    unfold Plan.run at hrun
    split at hrun
    · cases hrun
    · rename_i answer u ha
      -- After an error nothing more is asked for.
      have hfits' : (next answer).Fits P Q := by
        cases answer with
        | error e =>
          rw [hfail e]
          trivial
        | ok b => exact hnext b
      obtain ⟨hu, hpath⟩ := hask ha (hready l hl s (.refl s) hs)
      obtain ⟨ht, hrest⟩ := ih answer hfits' (fun m hm v hv => hready m hm v ((generateWithin_keeps ha).trans hv)) hu hrun
      refine ⟨ht, ?_⟩
      simp only [Plan.requests, ha, List.flatMap_cons]
      exact hpath.append hrest Retains.trans

include hspared hR hask in
theorem Guarded.produce (hready : Ready w R (Guarded w R) s l) (hnew : s.record? l = none) (hb : Binds s l bound isNew t)
    (h : produce (generateWithin n) l bound (t.setRecord l .pending) = some (r, u)) : Reserved w R u ∧
      Threads (Retains w R) (t.setRecord l .pending) ((productionRequests (generateWithin n) l bound
        (t.setRecord l .pending)).flatMap fun q => moments n q.1 q.2) u := by
  have hs := hready.holds.mark hspared hready.reached hnew hb
  -- The schema is passed to a generator, whose requests are threaded one after the other.
  have hplan : ∀ {node generator source v}, (t.setRecord l .pending).isGiven bound = false →
      (t.setRecord l .pending).Dispatches l node generator →
      (generator ((t.setRecord l .pending).task l bound node)).run (generateWithin n)
        ((t.setRecord l .pending).opened l node) = some (source, v) → Reserved w R v ∧
      Threads (Retains w R) (t.setRecord l .pending) ((productionRequests (generateWithin n) l bound
        (t.setRecord l .pending)).flatMap fun q => moments n q.1 q.2) v := by
    intro node generator source v hg hd hrun
    obtain ⟨kind, hschema, hk, hgen⟩ := hs.toStandard.dispatches hb.type?_self hg hd
    have hfits := @Generators.standard_fits kind generator ((t.setRecord l .pending).task l bound node) hgen hk
    have hq := opened_quiet (t.setRecord l .pending) l node
    obtain ⟨hv, hpath⟩ := Guarded.run hask hfits
      (fun m hm v hk hv => hready.dispatch hR hnew hb hschema hm hk hv) (hs.quiet hq) hrun
    rw [productionRequests_dispatch hg hd]
    exact ⟨hv.toReserved, Retains.after hs.apart hq hpath⟩
  cases produce_produces h with
  | given hg =>
    rw [productionRequests_given hg]
    exact ⟨hs.toReserved, Retains.skip hs.apart (Quiet.refl _)⟩
  | refused _ hstuck hq =>
    rw [productionRequests_stuck hstuck]
    exact ⟨hs.toReserved.quiet hq, Retains.skip hs.apart hq⟩
  | @reference node target _ _ hg hn ht ha =>
    have hq := redirected_quiet (t.setRecord l .pending) l target
    have hrefers := hs.toStandard.refers hb.type?_self hg hn ht
    obtain ⟨hu, hpath⟩ := hask ha (hready.redirect hR hnew hb hrefers (hs.quiet hq))
    rw [productionRequests_reference hg hn ht, List.flatMap_singleton]
    exact ⟨hu.toReserved, Retains.after hs.apart hq hpath⟩
  | @null node hg hreads hk =>
    have hq := opened_quiet (t.setRecord l .pending) l node
    rw [productionRequests_null hg hreads hk]
    exact ⟨hs.toReserved.quiet hq, Retains.skip hs.apart hq⟩
  | failed hg hd hrun => exact hplan hg hd hrun
  | silent hg hd hrun _ => exact hplan hg hd hrun
  | unwritten hg hd hrun _ _ hw =>
    obtain ⟨hv, hpath⟩ := hplan hg hd hrun
    exact hv.write hpath hw
  | written hg hd hrun _ _ hw =>
    obtain ⟨hv, hpath⟩ := hplan hg hd hrun
    exact hv.write hpath hw

theorem Guarded.recorded (hforeign : w.Foreign) (hready : Ready w R (Guarded w R) s l) (hr : s.record? l ≠ none)
    (h : generateWithin (n + 1) l s = some (r, t)) :
    requests (generateWithin n) l s = [] ∧ Reserved w R t ∧ Threads (Retains w R) s [t] t := by
  have hs := hready.holds
  obtain ⟨_, u, hn, hresponds, rfl⟩ := generateWithin_responds h
  cases hn
  cases hresponds with
  | resolved hrecord hq =>
    refine ⟨by simp [requests, hrecord], hs.toReserved.reply hs.toOwns hq fun hr hx _ => Or.inl ?_⟩
    cases hr
    exact ⟨l, _, hs.told hrecord rfl, hx⟩
  | failed hrecord =>
    refine ⟨by simp [requests, hrecord], hs.toReserved.reply hs.toOwns (Quiet.refl s) fun hr hx _ => Or.inl ?_⟩
    cases hr
    exact ⟨l, _, hs.told hrecord rfl, hx⟩
  | pending hrecord hq hstands =>
    have hsay := Quiet.say s .debug (l.text ++ ": in progress")
    have hnone := pendingRequests_waiting (hs.quiet hsay).documents (hready.waits.keep (.of_quiet hsay))
      ((hsay.record? l).trans hrecord)
    obtain ⟨hq', p, k, z, rfl, hz, hhands⟩ := hstands.hands_out (hs.quiet hq).documents
      (hready.waits.keep (.of_quiet hq)) ((hq.record? l).trans hrecord)
    rw [hq.mappings] at hz
    refine ⟨by simp [requests, hrecord, hnone], hs.toReserved.reply hs.toOwns (hq.trans hq') fun hr hx hdefault => ?_⟩
    cases hr
    cases hs.toStandard.occurs hforeign hz (JavaType.occursIn_of_nested hdefault hx) hdefault
    exact Or.inr ⟨p, hz, fun _ => hhands⟩
  | settled hnew _ _ => exact absurd hnew hr
  | assumed hnew _ _ _ _ => exact absurd hnew hr
  | forgotten hnew _ _ _ => exact absurd hnew hr

include hforeign hspared hR hask in
theorem Guarded.new (hready : Ready w R (Guarded w R) s l)
    (hnew : s.record? l = none) (h : generateWithin (n + 1) l s = some (r, t)) : Reserved w R t ∧
      Threads (Retains w R) s ([s.marked l] ++ (requests (generateWithin n) l s).flatMap (fun q => moments n q.1 q.2) ++ [t])
        t := by
  have hs := hready.holds
  have hb := s.marked_binds l
  have hkeeps := generateWithin_keeps h
  have hunbroken := generateWithin_unbroken h hready.unbroken
  have howns := (generateWithin_managed h hs.toManaged).toOwns
  have hrequests : requests (generateWithin n) l s =
      productionRequests (generateWithin n) l (s.bindType l).1 (s.marked l) := by rw [requests, hnew]
  obtain ⟨-, hmark⟩ := hs.toReserved.mark hs.toOwns hspared hready.reached hnew hb
  unfold generateWithin at h
  split at h
  · cases h
  · rename_i v hrespond
    cases h
    obtain ⟨produced, u, hp, hend⟩ := respond_of_new hnew hrespond
    have hproduces := produce_produces hp
    have htype := ((Keeps.steady.produces generateWithin_keeps hproduces).type record?_setRecord_self).trans hb.type?_self
    obtain ⟨hu, hpath⟩ := Guarded.produce hspared hR hask hready hnew hb hp
    have hlast : Reserved w R (v.reply l r) ∧ Threads (Retains w R) u [v.reply l r] (v.reply l r) := by
      rcases hend with ⟨a, rfl, rfl, rfl⟩ | ⟨e, rfl, hgiveUp⟩
      · refine hu.settle howns htype (hb.unmapped hs.toStandard) (fun hisNew hsaid hne => ?_) fun ha hx hdefault => ?_
        · rw [hisNew] at hb
          have hlist : ¬w.ListFree l := fun hlist =>
            hne (answer_of_mentions hforeign hspared hR hlist hready hnew hb hproduces hu hsaid)
          obtain ⟨k, hbound⟩ := hb.numbered hs.toStandard
          exact ⟨hready.reached, hlist, l, k, hready.reached, hb.unmapped hs.toStandard rfl, hlist, hbound, fun p hp =>
            hunbroken.recorded hready.waits hkeeps record?_settle_self (Setup.circular_of_not_listFree hlist)
              hp.to_reflTransGen⟩
        · subst ha
          exact hproduces.occurs (hs.toStandard.mark hb _) hb.type?_self hforeign hx hdefault
      -- Missing types are not ignored, so the record is taken back.
      · have hstrict : ¬u.features.value Feature.ignoreMissingTypes = true := by
          rw [hu.features]
          decide
        rw [giveUp, if_neg hstrict] at hgiveUp
        cases hgiveUp
        exact hu.erase howns fun hcycle => Tracks.erased hunbroken (List.mem_cons_of_mem _ List.mem_cons_self) hcycle
    rw [hrequests]
    exact ⟨hlast.1, (hmark.append hpath Retains.trans).append hlast.2 Retains.trans⟩

end Request

/-- Whatever a request is answered, names are reserved from the first of its moments to the last. -/
theorem generateWithin_guarded (hforeign : w.Foreign) (hspared : w.Spared R)
    (hR : ∀ {m m'}, R m → w.Needs m m' → R m') {n : Nat} {r : Answer}
    (h : generateWithin n l s = some (r, t)) (hready : Ready w R (Guarded w R) s l) :
    Guarded w R t ∧ Threads (Retains w R) s (moments n l s) t := by
  induction n generalizing l s r t with
  | zero => cases h
  | succ n ih =>
    have hmanaged := generateWithin_managed h hready.holds.toManaged
    have hunbroken := generateWithin_unbroken h hready.unbroken
    have hapart : s.mappings.Apart := hready.holds.apart
    have hfirst : Threads (Retains w R) s [s] s := .reach (.refl hapart) (.refl hapart) fun _ he => Or.inl he
    have hmoments : moments (n + 1) l s = s :: (if s.record? l = none then [s.marked l] else []) ++
        (requests (generateWithin n) l s).flatMap (fun q => moments n q.1 q.2) ++ [t] := by
      rw [moments, h]
      rfl
    rw [hmoments]
    by_cases hnew : s.record? l = none
    · obtain ⟨ht, hpath⟩ := Guarded.new hforeign hspared hR ih hready hnew h
      rw [if_pos hnew]
      exact ⟨⟨hmanaged, ht, hunbroken⟩, hfirst.append hpath Retains.trans⟩
    · obtain ⟨hnone, ht, hlast⟩ := Guarded.recorded hforeign hready hnew h
      rw [if_neg hnew, hnone]
      exact ⟨⟨hmanaged, ht, hunbroken⟩, hfirst.append hlast Retains.trans⟩

/-! ### Runs -/

theorem setup_prepared (w : Setup) (output : Output) (files : Files) : Prepared w.mappings (w.session output files) := by
  have hfold : ∀ (rest done : List Mapping) (s : Session), Prepared done s → s.journal = [] →
      Prepared (done ++ rest) (rest.foldl addMapping s) := by
    intro rest
    induction rest with
    | nil =>
      intro done s hs _
      rwa [List.append_nil]
    | cons mapping rest ih =>
      intro done s hs hj
      have h := ih (done ++ [mapping]) (s.addMapping mapping) (hs.addMapping mapping hj) hj
      rwa [List.append_assoc] at h
  exact hfold w.mappings [] _ (.new _ _ _) rfl

theorem start_empty (w : Setup) (output : Output) (files : Files) :
    w.start .empty output files = w.session output files := by
  rw [Setup.start, setup_frame]
  rfl

theorem Guarded.start (hapart : w.configured.Apart) (output : Output) (files : Files) :
    Guarded w R (w.start .empty output files) := by
  have hjournal : (w.start .empty output files).journal = [] := by
    rw [Setup.start, setup_frame]
    rfl
  have hmentions : ∀ {x}, ¬(w.start .empty output files).Mentions x := by
    rintro x ⟨m, y, he, -⟩
    rw [hjournal] at he
    cases he
  refine ⟨start_empty w output files ▸ (setup_prepared w output files).managed hapart, ⟨Standard.start w .empty output files,
    fun hr => ?_, fun hx => absurd hx hmentions, fun _ _ hx => absurd hx hmentions⟩, .start w output files⟩
  rw [setup_record?] at hr
  cases hr

theorem momentsAll_guarded {requests : List Location} (hforeign : w.Foreign) (hspared : w.Spared R)
    (hR : ∀ {m m'}, R m → w.Needs m m' → R m') (hrequests : ∀ l ∈ requests, R l)
    (hs : Guarded w R s) (hidle : ∀ p, s.record? p ≠ some .pending) :
    ∃ t, Threads (Retains w R) s (s.momentsAll requests) t := by
  induction requests generalizing s with
  | nil => exact ⟨s, Retains.skip hs.apart (Quiet.refl s)⟩
  | cons l rest ih =>
    obtain ⟨⟨r, t⟩, hr⟩ := Option.isSome_iff_exists.mp (generate_isSome hs.documents hs.generators l)
    obtain ⟨ht, hpath⟩ := generateWithin_guarded hforeign hspared hR hr (.idle hidle hs (hrequests l List.mem_cons_self))
    obtain ⟨u, hrest⟩ := ih (fun m hm => hrequests m (List.mem_cons_of_mem _ hm)) ht
      fun p hp => hidle p ((generateWithin_keeps hr).pending hp)
    refine ⟨u, ?_⟩
    rw [momentsAll, hr]
    exact hpath.append hrest Retains.trans

end Session

end SchemaBeans
