import SchemaBeans.Proofs.Generation.Rules

/-! What a generation keeps.

While a location is generated, other locations are asked for, messages are noted, documents are read and
sources are written. A relation between sessions that respects these (`Steady`) holds across everything
that happens while one location is pending. The first such relation is `Keeps`: every record stays as it
is, no other location is left pending, what is bound to a recorded location stays bound, and what was
written stays written. -/

namespace SchemaBeans

open Java (Source)

namespace Session

/-! ### Relations across a generation -/

/-- A relation from sessions to later ones that holds across messages and reading. -/
structure Calm (R : Session → Session → Prop) : Prop where
  trans : ∀ {s t u}, R s t → R t u → R s u
  quiet : ∀ {s t}, Quiet s t → R s t

namespace Calm
variable {R : Session → Session → Prop} {ask : Location → Session → Outcome (Option JavaType)}

theorem run (hR : Calm R) (hask : ∀ {l s a t}, ask l s = some (a, t) → R s t) {plan : Plan} {s t : Session}
    {r : Except Error (Option JavaType × Source)} (h : plan.run ask s = some (r, t)) : R s t := by
  induction plan generalizing s with
  | done type source =>
    cases h
    exact hR.quiet (Quiet.refl _)
  | fail e =>
    cases h
    exact hR.quiet (Quiet.refl _)
  | note entry next ih => exact hR.trans (hR.quiet (Quiet.note s entry)) (ih h)
  | request l next ih =>
    unfold Plan.run at h
    split at h
    · cases h
    · rename_i ha
      exact hR.trans (hask ha) (ih _ h)

theorem stands (hR : Calm R) (hask : ∀ {l s a t}, ask l s = some (a, t) → R s t) {l : Location}
    {s t : Session} {a : Answer} (h : Stands ask l s a t) : R s t := by
  cases h with
  | lost hw => exact hR.quiet (walk_quiet hw)
  | own hw _ => exact hR.quiet (walk_quiet hw)
  | pending hw _ _ => exact hR.quiet (walk_quiet hw)
  | failed hw _ _ ha => exact hR.trans (hR.quiet (walk_quiet hw)) (hask ha)
  | asked hw _ _ ha => exact hR.trans (hR.quiet (walk_quiet hw)) (hask ha)

/-- A relation holds across whole requests if it is only about the generators and what is written, and holds
    while types are produced. -/
theorem generates (hR : Calm R)
    (hframe : ∀ {s t}, t.output = s.output → t.files = s.files → t.written = s.written →
      t.generators = s.generators → R s t)
    (hproduces : ∀ {ask : Location → Session → Outcome (Option JavaType)} {l x s a t},
      (∀ {m u b v}, ask m u = some (b, v) → R u v) → Produces ask l x s a t → R s t) {fuel : Nat}
    {l : Location} {s t : Session} {a : Answer} (h : generateWithin fuel l s = some (a, t)) : R s t := by
  induction fuel generalizing l s a t with
  | zero => cases h
  | succ n ih =>
    obtain ⟨_, u, hn, hr, rfl⟩ := generateWithin_responds h
    cases hn
    -- Becoming pending leaves alone what the relation is about.
    have hmark : ∀ {bound isNew t}, Binds s l bound isNew t → R s (t.setRecord l .pending) := by
      intro bound isNew t hb
      refine hframe ?_ ?_ ?_ ?_ <;> rw [hb.frame] <;> rfl
    have hu : R s u := by
      cases hr with
      | resolved _ hq => exact hR.quiet hq
      | failed _ => exact hR.quiet (Quiet.refl s)
      | pending _ hq hst => exact hR.trans (hR.quiet hq) (hR.stands ih hst)
      | settled _ hb hp =>
        refine hR.trans (hmark hb) (hR.trans (hproduces ih hp) (hframe ?_ ?_ ?_ ?_)) <;> rw [settle_frame]
      | assumed _ hb hp _ hq =>
        exact hR.trans (hmark hb) (hR.trans (hproduces ih hp) (hR.trans (hR.quiet hq) (hframe rfl rfl rfl rfl)))
      | forgotten _ hb hp _ => exact hR.trans (hmark hb) (hR.trans (hproduces ih hp) (hframe rfl rfl rfl rfl))
    exact hR.trans hu (hframe rfl rfl rfl rfl)

theorem invariant {P : Session → Prop} (hP : ∀ {s t}, Quiet s t → P s → P t) : Calm fun s t => P s → P t where
  trans := fun h₁ h₂ hs => h₂ (h₁ hs)
  quiet := hP

end Calm

/-- A relation from sessions to later ones that holds across all that happens between the records of one
    location, nested requests aside. -/
structure Steady (R : Session → Session → Prop) : Prop extends Calm R where
  write : ∀ {s l t text r u}, s.write l t text = (r, u) → R s u

namespace Steady
variable {R : Session → Session → Prop} {ask : Location → Session → Outcome (Option JavaType)}

theorem produces (hR : Steady R) (hask : ∀ {l s a t}, ask l s = some (a, t) → R s t) {l : Location}
    {requested : JavaType} {s t : Session} {a : Answer} (h : Produces ask l requested s a t) : R s t := by
  cases h with
  | given _ => exact hR.quiet (Quiet.refl _)
  | refused _ _ hq => exact hR.quiet hq
  | reference _ _ _ ha => exact hR.trans (hR.quiet (redirected_quiet _ _ _)) (hask ha)
  | null _ _ _ => exact hR.quiet (opened_quiet _ _ _)
  | failed _ _ hrun => exact hR.trans (hR.quiet (opened_quiet _ _ _)) (hR.run hask hrun)
  | silent _ _ hrun _ => exact hR.trans (hR.quiet (opened_quiet _ _ _)) (hR.run hask hrun)
  | unwritten _ _ hrun _ _ hw =>
    exact hR.trans (hR.quiet (opened_quiet _ _ _)) (hR.trans (hR.run hask hrun) (hR.write hw))
  | written _ _ hrun _ _ hw =>
    exact hR.trans (hR.quiet (opened_quiet _ _ _)) (hR.trans (hR.run hask hrun) (hR.write hw))

theorem generates (hR : Steady R)
    (hframe : ∀ {s t}, t.output = s.output → t.files = s.files → t.written = s.written →
      t.generators = s.generators → R s t) {fuel : Nat} {l : Location} {s t : Session} {a : Answer}
    (h : generateWithin fuel l s = some (a, t)) : R s t :=
  hR.toCalm.generates hframe (fun hask hp => hR.produces hask hp) h

theorem generatesAll (hR : Steady R)
    (hgenerate : ∀ {fuel l s a t}, generateWithin fuel l s = some (a, t) → R s t) {requests : List Location}
    {s t : Session} {r : Except Error (List (Option JavaType))} (h : s.generateAll requests = some (r, t)) : R s t := by
  induction requests generalizing s r with
  | nil =>
    cases h
    exact hR.quiet (Quiet.refl _)
  | cons l rest ih =>
    unfold generateAll at h
    split at h
    · cases h
    · rename_i ha
      cases h
      exact hgenerate ha
    · rename_i ha
      split at h
      · cases h
      · rename_i hrest
        cases h
        exact hR.trans (hgenerate ha) (ih hrest)
      · rename_i hrest
        cases h
        exact hR.trans (hgenerate ha) (ih hrest)

end Steady

/-! ### Records -/

/-- Both sessions read the same documents, and have the same features, known types and generators. -/
structure SameSetup (s t : Session) : Prop where
  features : t.features = s.features
  known : t.known = s.known
  generators : t.generators = s.generators
  loads : Loads s t

section SameSetup
variable {s t u : Session} {l : Location} {bound : JavaType} {isNew : Bool}

theorem SameSetup.trans (h₁ : SameSetup s t) (h₂ : SameSetup t u) : SameSetup s u where
  features := h₂.features.trans h₁.features
  known := h₂.known.trans h₁.known
  generators := h₂.generators.trans h₁.generators
  loads := h₁.loads.trans h₂.loads

theorem SameSetup.documents (h : SameSetup s t) (documents : Table Uri Json) (ho : s.Over documents) :
    t.Over documents :=
  h.loads.of_over ho

theorem Quiet.sameSetup (h : Quiet s t) : SameSetup s t :=
  ⟨h.features, h.known, h.generators, h.loads⟩

theorem Binds.sameSetup (h : Binds s l bound isNew t) (r : Record) : SameSetup s (t.setRecord l r) where
  features := by
    rw [h.frame]
    rfl
  known := by
    rw [h.frame]
    rfl
  generators := by
    rw [h.frame]
    rfl
  loads := h.loads.trans (.same rfl rfl)

theorem settle_sameSetup {a : Option JavaType} : SameSetup s (s.settle l bound isNew a) := by
  rw [settle_frame]
  exact ⟨rfl, rfl, rfl, .same rfl rfl⟩

end SameSetup

/-- From `s` to `t` the records of `s` stay, no location is left pending, the types of recorded locations
    stay bound, sources stay written, and the setup of the session does not change. -/
structure Keeps (s t : Session) : Prop extends SameSetup s t where
  record : ∀ {l r}, s.record? l = some r → t.record? l = some r
  pending : ∀ {l}, t.record? l = some .pending → s.record? l = some .pending
  type : ∀ {l r}, s.record? l = some r → t.mappings.type? l = s.mappings.type? l
  written : s.written ⊆ t.written

namespace Keeps
variable {s t u : Session} {l : Location} {bound : JavaType} {isNew : Bool}

theorem trans (h₁ : Keeps s t) (h₂ : Keeps t u) : Keeps s u where
  toSameSetup := h₁.toSameSetup.trans h₂.toSameSetup
  record := fun h => h₂.record (h₁.record h)
  pending := fun h => h₁.pending (h₂.pending h)
  type := fun h => (h₂.type (h₁.record h)).trans (h₁.type h)
  written := fun _ h => h₂.written (h₁.written h)

theorem of_quiet (h : Quiet s t) : Keeps s t where
  toSameSetup := h.sameSetup
  record := fun hr => (h.record? _).trans hr
  pending := fun hr => (h.record? _).symm.trans hr
  type := fun _ => by rw [h.mappings]
  written := fun _ hw => by rwa [h.written]

theorem refl (s : Session) : Keeps s s := of_quiet (Quiet.refl s)

theorem write {t : JavaType} {text : String} {r : Except Error Unit} (h : s.write l t text = (r, u)) :
    Keeps s u := by
  cases r with
  | ok =>
    obtain ⟨_, _, _, rfl⟩ := write_ok h
    exact ⟨⟨rfl, rfl, rfl, .same rfl rfl⟩, id, id, fun _ => rfl, List.subset_append_left _ _⟩
  | error =>
    obtain ⟨_, _, _, rfl⟩ := write_error h
    exact ⟨⟨rfl, rfl, rfl, .same rfl rfl⟩, id, id, fun _ => rfl, fun _ hw => hw⟩

theorem steady : Steady Keeps where
  trans := trans
  quiet := of_quiet
  write := write

theorem reply (s : Session) (l : Location) (a : Answer) : Keeps s (s.reply l a) :=
  ⟨⟨rfl, rfl, rfl, .same rfl rfl⟩, id, id, fun _ => rfl, fun _ hw => hw⟩

/-- A generation keeps what was there before its location was bound and became pending, if it ends by
    changing only the record and the type of its location, which is not left pending. -/
theorem of_marked (hnew : s.record? l = none) (hb : Binds s l bound isNew t)
    (h : Keeps (t.setRecord l .pending) u) {v : Session} (hsame : SameSetup u v)
    (hrec : ∀ m, m ≠ l → v.record? m = u.record? m) (hl : v.record? l ≠ some .pending)
    (htype : ∀ m, m ≠ l → v.mappings.type? m = u.mappings.type? m) (hwritten : v.written = u.written) : Keeps s v := by
  -- Whatever has a record already is not the new location.
  have hne : ∀ {m r}, s.record? m = some r → m ≠ l := by
    rintro m r hr rfl
    rw [hnew] at hr
    cases hr
  have hmark : ∀ {m}, m ≠ l → (t.setRecord l .pending).record? m = s.record? m := fun hm =>
    (record?_setRecord_of_ne hm).trans (hb.record? _)
  refine ⟨((hb.sameSetup _).trans h.toSameSetup).trans hsame, fun hr => ?_, fun {m} hr => ?_, fun hr => ?_, ?_⟩
  · rw [hrec _ (hne hr)]
    exact h.record ((hmark (hne hr)).trans hr)
  · have hm : m ≠ l := by
      rintro rfl
      exact hl hr
    rw [hrec m hm] at hr
    exact (hmark hm).symm.trans (h.pending hr)
  · rw [htype _ (hne hr), h.type ((hmark (hne hr)).trans hr)]
    exact hb.type?_of_ne (hne hr)
  · have hmarked : (t.setRecord l .pending).written = s.written := by
      rw [hb.frame]
      rfl
    rw [hwritten, ← hmarked]
    exact h.written

theorem responds {ask : Location → Session → Outcome (Option JavaType)}
    (hask : ∀ {l s a t}, ask l s = some (a, t) → Keeps s t) {a : Answer} (h : Responds ask l s a t) :
    Keeps s t := by
  cases h with
  | resolved _ hq => exact of_quiet hq
  | failed _ => exact refl s
  | pending _ hq hst => exact (of_quiet hq).trans (steady.stands hask hst)
  | settled hnew hb hp =>
    refine of_marked hnew hb (steady.produces hask hp) settle_sameSetup (fun m hm => record?_settle_of_ne hm) ?_
      (fun m hm => type?_settle_of_ne hm) (by rw [settle_frame])
    rw [record?_settle_self]
    simp
  | assumed hnew hb hp _ hq =>
    have hk := (steady.produces hask hp).trans (of_quiet hq)
    refine of_marked hnew hb hk ⟨rfl, rfl, rfl, .same rfl rfl⟩
      (fun m hm => record?_setRecord_of_ne hm) ?_ (fun _ _ => rfl) rfl
    rw [record?_setRecord_self]
    simp
  | forgotten hnew hb hp _ =>
    refine of_marked hnew hb (steady.produces hask hp) ⟨rfl, rfl, rfl, .same rfl rfl⟩
      (fun m hm => record?_eraseRecord_of_ne hm) ?_ (fun _ _ => rfl) rfl
    rw [record?_eraseRecord_self]
    simp

end Keeps

theorem generateWithin_keeps {fuel : Nat} {l : Location} {s t : Session} {a : Answer}
    (h : generateWithin fuel l s = some (a, t)) : Keeps s t := by
  induction fuel generalizing l s a t with
  | zero => cases h
  | succ n ih =>
    obtain ⟨_, u, hn, hr, rfl⟩ := generateWithin_responds h
    cases hn
    exact (Keeps.responds ih hr).trans (Keeps.reply u l a)

theorem generateAll_keeps {requests : List Location} {s t : Session} {r : Except Error (List (Option JavaType))}
    (h : s.generateAll requests = some (r, t)) : Keeps s t :=
  Keeps.steady.generatesAll generateWithin_keeps h

end Session

end SchemaBeans
