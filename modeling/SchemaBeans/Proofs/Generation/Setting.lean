import SchemaBeans.Proofs.Generation.Keeps
import SchemaBeans.Proofs.Generation.Meaning
import SchemaBeans.Proofs.Output.Sources

/-! Sessions that run in a setup.

Such a session reads the documents of the setup, and binds locations to the types they are mapped to, or to
types it finds (`Session.Standard`). Every step of a generation leaves it one, and what it reads at a location
is what the setup has there. -/

namespace SchemaBeans

open Java (Source)

/-- A session that is set up with features and has not been asked for anything. -/
def Setup.start (w : Setup) (features : Features) (output : Output) (files : Files) : Session :=
  { w.session output files with features }

namespace Session
variable {w : Setup} {f : Features} {s t u : Session} {l m : Location} {bound : JavaType} {isNew : Bool}

/-- The session runs on the documents of a setup, with given features. Locations are bound to the types they
    are mapped to, and types that were found for others lie in the default package. -/
structure Standard (w : Setup) (f : Features) (s : Session) : Prop where
  documents : s.Over w.documents
  features : s.features = f
  known : s.known = .standard
  generators : s.generators = .standard
  configured : ∀ {l t}, w.configured.type? l = some t → s.mappings.type? l = some t
  named : ∀ {l t}, s.mappings.type? l = some t → w.configured.type? l = some t ∨
    (w.configured.type? l = none ∧ t.package = f.value Feature.defaultPackage ∧ t.arguments = [])

/-! ### The start -/

theorem addMappings_frame (mappings : List Mapping) (s : Session) : mappings.foldl addMapping s =
    { s with names := (mappings.foldl addMapping s).names, mappings := mappings.foldl Mappings.put s.mappings } := by
  induction mappings generalizing s with
  | nil => rfl
  | cons mapping rest ih =>
    rw [List.foldl_cons, List.foldl_cons, ih]
    rfl

theorem setup_frame (w : Setup) (output : Output) (files : Files) :
    w.session output files = { new (.preloaded w.documents) output files with
      names := (w.session output files).names, mappings := w.configured } :=
  addMappings_frame w.mappings _

theorem setup_record? (w : Setup) (f : Features) (output : Output) (files : Files) (p : Location) :
    (w.start f output files).record? p = none := by
  rw [Setup.start, setup_frame]
  rfl

theorem setup_mappings (w : Setup) (f : Features) (output : Output) (files : Files) :
    (w.start f output files).mappings = w.configured := by
  rw [Setup.start, setup_frame]

theorem setup_idle (w : Setup) (output : Output) (files : Files) (p : Location) :
    (w.session output files).record? p ≠ some .pending := by
  rw [setup_frame]
  simp [record?, new]

theorem Standard.start (w : Setup) (f : Features) (output : Output) (files : Files) :
    (w.start f output files).Standard w f := by
  rw [Setup.start, setup_frame]
  refine ⟨⟨rfl, fun _ _ h => ?_⟩, rfl, rfl, rfl, fun h => h, fun h => Or.inl h⟩
  cases h

/-! ### Steps -/

namespace Standard

theorem congr (h : s.Standard w f) (hs : SameSetup s t) (hm : t.mappings = s.mappings) : t.Standard w f :=
  ⟨hs.documents _ h.documents, hs.features.trans h.features, hs.known.trans h.known, hs.generators.trans h.generators,
    hm ▸ h.configured, hm ▸ h.named⟩

theorem quiet (h : s.Standard w f) (hq : Quiet s t) : t.Standard w f := h.congr hq.sameSetup hq.mappings

theorem unmapped (h : s.Standard w f) (hnone : s.mappings.type? l = none) : w.configured.type? l = none := by
  cases hc : w.configured.type? l with
  | none => rfl
  | some x =>
    rw [h.configured hc] at hnone
    cases hnone

end Standard

section Mark
variable (hb : Binds s l bound isNew t)
include hb

theorem Binds.type?_of_some {x : JavaType} (hx : s.mappings.type? m = some x) : t.mappings.type? m = some x := by
  cases hb with
  | held _ => exact hx
  | found hnone hq hu =>
    have hm : m ≠ l := by
      rintro rfl
      rw [hnone] at hx
      cases hx
    exact ((Binds.found hnone hq hu).type?_of_ne hm).trans hx

theorem Binds.unmapped (h : s.Standard w f) (hisNew : isNew = true) : w.configured.type? l = none := by
  cases hb with
  | held _ => cases hisNew
  | found hnone _ _ => exact h.unmapped hnone

theorem Standard.mark (h : s.Standard w f) (r : Record) : (t.setRecord l r).Standard w f := by
  have hsame := hb.sameSetup r
  refine ⟨hsame.documents _ h.documents, hsame.features.trans h.features, hsame.known.trans h.known,
    hsame.generators.trans h.generators, fun hc => hb.type?_of_some (h.configured hc), fun {m x} hx => ?_⟩
  by_cases hm : m = l
  · subst hm
    cases hb with
    | held _ => exact h.named hx
    | found hnone hq hu =>
      cases (Binds.found hnone hq hu).type?_self.symm.trans hx
      cases hu
      exact Or.inr ⟨h.unmapped hnone, by rw [← h.features]; rfl, rfl⟩
  · exact h.named ((hb.type?_of_ne hm).symm.trans hx)

end Mark

/-- Only a type that was found is taken back, never one that the location is mapped to. -/
theorem Standard.settle {a : Option JavaType} (h : s.Standard w f) (hl : s.mappings.type? l = some bound)
    (hnew : isNew = true → w.configured.type? l = none) : (s.settle l bound isNew a).Standard w f := by
  have hsame : SameSetup s (s.settle l bound isNew a) := settle_sameSetup
  refine ⟨hsame.documents _ h.documents, hsame.features.trans h.features, hsame.known.trans h.known,
    hsame.generators.trans h.generators, fun {m x} hc => ?_, fun hx => h.named (type?_of_settle hx)⟩
  by_cases hm : m = l
  · subst hm
    -- A type that the location is mapped to was not found for it now, so it is not taken back.
    have hold : isNew = false := by
      cases isNew with
      | false => rfl
      | true => rw [hnew rfl] at hc; cases hc
    rw [type?_settle_self, hold]
    exact h.configured hc
  · rw [type?_settle_of_ne hm]
    exact h.configured hc

theorem Standard.steady : Steady fun s t => s.Standard w f → t.Standard w f where
  trans := fun h₁ h₂ h => h₂ (h₁ h)
  quiet := fun hq h => h.quiet hq
  write := by
    intro s l x text r t hw h
    refine h.congr (Keeps.write hw).toSameSetup ?_
    cases r with
    | ok => obtain ⟨_, _, _, rfl⟩ := write_ok hw; rfl
    | error => obtain ⟨_, _, _, rfl⟩ := write_error hw; rfl

/-! ### What is read -/

namespace Standard
variable {node : Json} (h : s.Standard w f)
include h

theorem found (hn : (s.resolve l).1 = .ok node) : l.node? w.documents = some node := by
  rw [h.documents.resolve] at hn
  cases hd : l.node? w.documents with
  | none => rw [hd] at hn; cases hn
  | some node' => rw [hd] at hn; cases hn; rfl

theorem resolve (hn : l.node? w.documents = some node) : (s.resolve l).1 = .ok node := by
  rw [h.documents.resolve, hn]
  rfl

theorem stuck (hstuck : s.Stuck l) : (∀ m, ¬w.Refers l m) ∧ (∀ node, w.Schema l node → Kind.of l node ≠ .ok none) ∧
    ∀ node kind generator, w.Schema l node → Kind.of l node = .ok (some kind) →
      Generators.standard.get? kind ≠ some generator := by
  refine ⟨fun m hr => ?_, fun node hs => ?_, fun node kind generator hs hk hg => ?_⟩
  · obtain ⟨-, node, hn, ht⟩ := hr
    exact hstuck.reference node m (h.resolve hn) ht
  · exact hstuck.null node ⟨h.resolve hs.found, hs.plain, hs.object⟩
  · exact hstuck.dispatch node generator ⟨⟨h.resolve hs.found, hs.plain, hs.object⟩, kind, hk, h.generators ▸ hg⟩

section Unpinned
variable (hb : s.mappings.type? l = some bound) (hg : s.isGiven bound = false)
include hb hg

theorem unpinned (x : JavaType) : ¬w.Pinned l x := by
  intro hp
  cases hb.symm.trans (h.configured hp.1)
  rw [isGiven, h.known, hp.2] at hg
  cases hg

theorem refers {target : Location} (hn : (s.resolve l).1 = .ok node)
    (ht : Reference.target? l node = .ok (some target)) : w.Refers l target :=
  ⟨h.unpinned hb hg, node, h.found hn, ht⟩

theorem schema (hr : s.Reads l node) : w.Schema l node :=
  ⟨h.unpinned hb hg, h.found hr.resolved, hr.plain, hr.object⟩

theorem dispatches {generator : Generator} (hd : s.Dispatches l node generator) :
    ∃ kind, w.Schema l node ∧ Kind.of l node = .ok (some kind) ∧ Generators.standard.get? kind = some generator := by
  obtain ⟨hr, kind, hk, hgen⟩ := hd
  exact ⟨kind, h.schema hb hg hr, hk, h.generators ▸ hgen⟩

end Unpinned

end Standard

theorem resolved_of_recorded (hidle : ∀ p, s.record? p ≠ some .pending) (hunfailed : ∀ x, s.record? l ≠ some (.failed x))
    (hr : (s.record? l).isSome) : ∃ a, s.record? l = some (.resolved a) := by
  obtain ⟨r, hr⟩ := Option.isSome_iff_exists.mp hr
  cases r with
  | pending => exact absurd hr (hidle l)
  | resolved a => exact ⟨a, hr⟩
  | failed x => exact absurd hr (hunfailed x)

/-! ### What is in memory -/

/-- The output is in memory, refuses nothing and holds what was written. -/
def Stores (s : Session) : Prop :=
  s.output = .memory (.ofWritten (s.written.map fun e => (e.type, e.text))) []

theorem Stores.write {x : JavaType} {text : String} {r : Except Error Unit} (h : s.Stores)
    (hw : s.write l x text = (r, t)) : r = .ok () ∧ t.Stores := by
  have hout : (s.say .info (l.text ++ ": writing " ++ x.text)).output =
    .memory (.ofWritten (s.written.map fun e => (e.type, e.text))) [] := h
  unfold Session.write at hw
  simp only [hout, Output.write, List.contains_nil, Bool.false_eq_true, if_false] at hw
  cases hw
  refine ⟨rfl, ?_⟩
  simp only [Stores, List.map_append, List.map_cons, List.map_nil, SourceStore.ofWritten_concat]
  rfl

theorem Stores.steady : Steady fun s t => s.Stores → t.Stores where
  trans := fun h₁ h₂ h => h₂ (h₁ h)
  quiet := fun hq h => by
    rw [Stores, hq.output, hq.written]
    exact h
  write := fun hw h => (h.write hw).2

theorem Stores.generates {fuel : Nat} {r : Answer}
    (hg : generateWithin fuel l s = some (r, t)) (h : s.Stores) : t.Stores := by
  refine Stores.steady.generates (fun ho _ hw _ hs => ?_) hg h
  rw [Stores, ho, hw]
  exact hs

theorem setup_stores (w : Setup) (files : Files) : (w.session (.memory .empty []) files).Stores := by
  rw [setup_frame]
  rfl

end Session

end SchemaBeans
