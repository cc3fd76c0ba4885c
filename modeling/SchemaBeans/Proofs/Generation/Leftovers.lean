import SchemaBeans.Proofs.Generation.Faithful
import SchemaBeans.Proofs.Generation.Waiting

/-! What a failed request leaves behind.

Whether a location can be given a type follows from the documents: every location it needs has to be one that
its generator can deal with (`Setup.Sound`). A request fails for an obstacle at a location it needs
(`Setup.Obstacle`): where no source is refused, only for a location that is not sound. It takes back the records
of those that were pending. The records of locations that were resolved by then stay, also of
those that needed a pending one. So a later request can be answered although it needs a location that failed,
and this is the only way in which it can be answered better than in a new session. -/

namespace SchemaBeans

open Java (Source)

/-! ### Locations that can be given a type -/

namespace Setup

/-- The location is known to have no type: it is null, or refers to a location without a type. -/
inductive Untyped (w : Setup) : Location → Prop
  | null {l : Location} {node : Json} : w.Schema l node → Kind.of l node = .ok none → Untyped w l
  | reference {l target : Location} : w.Refers l target → Untyped w target → Untyped w l

/-- Nothing about the location itself keeps it from being answered: if it goes to a generator, that comes to its
    end once the locations with a type, and only these, are answered with one. -/
inductive Typable (w : Setup) (f : Features) (l : Location) : Prop
  | pinned {x : JavaType} : w.Pinned l x → Typable w f l
  | reference {target : Location} : w.Refers l target → Typable w f l
  | null {node : Json} : w.Schema l node → Kind.of l node = .ok none → Typable w f l
  | generated {node : Json} {kind : String} {generator : Generator} {requested : JavaType} {a : Option JavaType}
      {source : Source} : w.Schema l node → Kind.of l node = .ok (some kind) →
      Generators.standard.get? kind = some generator →
      (generator ⟨l, requested, node, f⟩).Yields (fun m b => b = none ↔ w.Untyped m) a source → Typable w f l

/-- All locations that a location needs can be answered. -/
def Sound (w : Setup) (f : Features) (l : Location) : Prop :=
  ∀ m, Relation.ReflTransGen w.Needs l m → w.Typable f m

variable {w : Setup} {f : Features} {l m p : Location} {node : Json}

theorem Untyped.not_pinned (h : w.Untyped l) (x : JavaType) : ¬w.Pinned l x := by
  cases h with
  | null hs _ => exact hs.unpinned x
  | reference hr _ => exact hr.unpinned x

theorem Untyped.kind (h : w.Untyped l) (hs : w.Schema l node) : Kind.of l node = .ok none := by
  cases h with
  | null hs' hk =>
    cases hs.unique hs'
    exact hk
  | reference hr _ => exact absurd hs hr.not_schema

theorem Untyped.of_refers (h : w.Untyped l) (hr : w.Refers l m) : w.Untyped m := by
  cases h with
  | null hs _ => exact absurd hs hr.not_schema
  | reference hr' h => exact hr'.unique hr ▸ h

theorem Untyped.refers_of_hop (h : w.Untyped l) (hm : w.Hop l m) : w.Refers l m := by
  rcases hm with hr | ⟨node, _, hs, hk, -⟩
  · exact hr
  · cases (h.kind hs).symm.trans hk

theorem Untyped.hops (h : w.Untyped l) (hp : Relation.ReflTransGen w.Hop l p) : w.Untyped p := by
  induction hp with
  | refl => exact h
  | tail _ hm ih => exact ih.of_refers (ih.refers_of_hop hm)

theorem Untyped.not_isObject (h : w.Untyped l) : ¬w.IsObject l := by
  rintro ⟨node, hs, hk⟩
  cases (h.kind hs).symm.trans hk

/-- References to a location without a type do not go in a circle, since they end at a null. -/
theorem Untyped.not_circular (h : w.Untyped l) : ¬Relation.TransGen w.Hop l l := by
  induction h with
  | null hs hk =>
    intro hcycle
    obtain ⟨m, hm, -⟩ := Relation.TransGen.head'_iff.mp hcycle
    exact ((Untyped.null hs hk).refers_of_hop hm).not_schema hs
  | reference hr _ ih =>
    intro hcycle
    obtain ⟨m, hm, hback⟩ := Relation.TransGen.head'_iff.mp hcycle
    cases hm.unique (Or.inl hr)
    exact ih (Relation.TransGen.tail' hback hm)

theorem Typable.not_fails {kind : String} {generator : Generator} {requested : JavaType} {e : Error} (h : w.Typable f l)
    (hs : w.Schema l node) (hk : Kind.of l node = .ok (some kind)) (hg : Generators.standard.get? kind = some generator) :
    ¬(generator ⟨l, requested, node, f⟩).Fails (fun m b => b = none ↔ w.Untyped m) e := by
  intro hfails
  cases h with
  | pinned hp => exact absurd hp (hs.unpinned _)
  | reference hr => exact absurd hs hr.not_schema
  | null hs' hk' =>
    cases hs.unique hs'
    cases hk.symm.trans hk'
  | generated hs' hk' hg' hy =>
    cases hs.unique hs'
    cases hk.symm.trans hk'
    cases hg.symm.trans hg'
    obtain ⟨m, t, htyped, huntyped, -⟩ :=
      (Generator.standard_alike hg).untyped_of_fails (Generator.standard_requires hg _) hy hfails
    cases htyped.mpr (huntyped.mp rfl)

theorem Leads.hops {n : Nat} (h : w.Leads l n m) : Relation.ReflTransGen w.Hop l m := by
  induction h with
  | here l => exact .refl
  | reference hr _ ih => exact ih.head (Or.inl hr)
  | items hl _ ih => exact ih.head (Or.inr hl)

/-- What keeps a location from being answered, with the root cause: there is no reference, no null and no schema for
    a built-in generator; the generator fails, although it is answered as it should be; or the type that was
    generated is refused, for one of the causes `O`. -/
inductive Obstacle (w : Setup) (f : Features) (O : Error → Prop) (l : Location) : Error → Prop
  | stuck {cause : Error} : (∀ x, ¬w.Pinned l x) → (∀ m, ¬w.Refers l m) →
      (∀ node, w.Schema l node → Kind.of l node ≠ .ok none) →
      (∀ node kind generator, w.Schema l node → Kind.of l node = .ok (some kind) →
        Generators.standard.get? kind ≠ some generator) → Obstacle w f O l cause
  | failed {node : Json} {kind : String} {generator : Generator} {requested : JavaType} {e : Error} : w.Schema l node →
      Kind.of l node = .ok (some kind) → Generators.standard.get? kind = some generator →
      (generator ⟨l, requested, node, f⟩).Fails (fun m b => b = none ↔ w.Untyped m) e → Obstacle w f O l e.rootCause
  | refused {cause : Error} : w.Emits l → O cause → Obstacle w f O l cause

/-- Where a location can be answered, it is not answered only because its type is refused. -/
theorem Typable.refused {O : Error → Prop} {cause : Error} (h : w.Typable f l) (ho : w.Obstacle f O l cause) : O cause := by
  cases ho with
  | stuck hpinned hrefers hnull hschema =>
    cases h with
    | pinned hp => exact absurd hp (hpinned _)
    | reference hr => exact absurd hr (hrefers _)
    | null hs hk => exact absurd hk (hnull _ hs)
    | generated hs hk hg _ => exact absurd hg (hschema _ _ _ hs hk)
  | failed hs hk hg hfails => exact absurd hfails (h.not_fails hs hk hg)
  | refused _ hcause => exact hcause

end Setup

/-! ### What is refused -/

/-- The error is the root cause of one with which the output refuses a source. -/
def Output.Refuses (output : Output) (cause : Error) : Prop :=
  ∃ files x text e, (output.write files x text).1 = .error e ∧ e.rootCause = cause

namespace Output
variable {output : Output} {cause : Error}

theorem Refuses.memory {store store' : SourceStore} {refused : List String} (h : (Output.memory store refused).Refuses cause) :
    (Output.memory store' refused).Refuses cause := by
  obtain ⟨files, x, text, e, hwrite, hroot⟩ := h
  refine ⟨files, x, text, e, ?_, hroot⟩
  unfold Output.write at hwrite ⊢
  dsimp only at hwrite ⊢
  split at hwrite
  · rename_i hmem
    rwa [if_pos hmem]
  · cases hwrite

/-- Memory takes all sources, unless it is told not to. -/
theorem not_refuses_memory {store : SourceStore} : ¬(Output.memory store []).Refuses cause := by
  rintro ⟨files, x, text, e, hwrite, -⟩
  cases hwrite

/-- What is refused after a source was written would have been refused before. -/
theorem Refuses.of_write {output' : Output} {files files' : Files} {x : JavaType} {text : String} {r : Except Error Unit}
    (hwrite : output.write files x text = (r, output', files')) (h : output'.Refuses cause) : output.Refuses cause := by
  unfold Output.write at hwrite
  split at hwrite
  · split at hwrite <;> cases hwrite
    · exact h
    · exact h.memory
  · have houtput : Output.directory _ = output' := congrArg (fun result => result.2.1) hwrite
    rwa [houtput]

end Output

/-- No type that is found for a location is there already. -/
def Features.FindsNew (f : Features) : Prop :=
  ∀ (names : Names) (l : Location) (x : JavaType), (names.unique (f.value Feature.defaultPackage) (typeName l)).1 = x →
    (x.isPrimitive || KnownTypes.standard.contains x) = false

theorem Features.findsNew_empty : Features.empty.FindsNew := by
  rintro names l x rfl
  exact Session.not_given_of_default rfl

namespace Session
variable {w : Setup} {f : Features} {E : Location → Prop} {O : Error → Prop} {s t u : Session} {l m : Location}
  {bound x : JavaType} {isNew : Bool} {a : Option JavaType}

theorem refuses_of_write {text : String} {r : Except Error Unit} (h : s.write l x text = (r, t)) :
    (∀ cause, t.output.Refuses cause → s.output.Refuses cause) ∧ ∀ e, r = .error e → s.output.Refuses e.rootCause := by
  unfold Session.write at h
  dsimp only at h
  split at h <;> rename_i hwrite <;> cases h
  · exact ⟨fun _ hcause => .of_write hwrite hcause, nofun⟩
  · refine ⟨fun _ hcause => .of_write hwrite hcause, fun e he => ?_⟩
    cases he
    exact ⟨_, _, _, _, congrArg Prod.fst hwrite, rfl⟩

/-! ### Tracking records -/

/-- The location has a record, or had one that was taken back. -/
def Knows (s : Session) (l : Location) : Prop := (s.record? l).isSome ∨ .erased l ∈ s.journal

/-- The location can be answered, has a type only if it is answered with one, and what it needs is known. -/
structure Justifies (w : Setup) (f : Features) (s : Session) (l : Location) (a : Option JavaType) : Prop where
  typable : w.Typable f l
  type : a = none ↔ w.Untyped l
  needs : ∀ m, w.Needs l m → s.Knows m

theorem Justifies.mono (h : s.Justifies w f l a) (hknows : ∀ m, s.Knows m → t.Knows m) : t.Justifies w f l a :=
  ⟨h.typable, h.type, fun m hm => hknows m (h.needs m hm)⟩

/-- What is resolved is justified, records were taken back of locations in `E` only, and the output refuses a source
    for causes in `O` only. -/
structure Tracks (w : Setup) (f : Features) (E : Location → Prop) (O : Error → Prop) (s : Session) : Prop
    extends Standard w f s where
  pinned : ∀ {l x}, s.mappings.type? l = some x → s.isGiven x = true → w.Pinned l x
  unfailed : ∀ {l x}, s.record? l ≠ some (.failed x)
  resolved : ∀ {l a}, s.record? l = some (.resolved a) → s.Justifies w f l a
  erased : ∀ {l}, .erased l ∈ s.journal → E l
  refuses : ∀ {cause}, s.output.Refuses cause → O cause

namespace Tracks

theorem setup (w : Setup) (f : Features) (E : Location → Prop) (output : Output) (files : Files) :
    Tracks w f E output.Refuses (w.start f output files) := by
  have hstandard := Standard.start w f output files
  have hnone := setup_record? w f output files
  refine ⟨hstandard, fun {l x} hx hg => ⟨?_, ?_⟩, fun {l x} hr => ?_, fun {l a} hr => ?_, ?_, fun {cause} hcause => ?_⟩
  · rw [Setup.start, setup_frame] at hx
    exact hx
  · rwa [isGiven, hstandard.known] at hg
  · rw [hnone] at hr
    cases hr
  · rw [hnone] at hr
    cases hr
  · rw [Setup.start, setup_frame]
    simp [new]
  · rwa [Setup.start, setup_frame] at hcause

theorem start (w : Setup) (f : Features) (E : Location → Prop) (files : Files) :
    Tracks w f E (fun _ => False) (w.start f (.memory .empty []) files) :=
  { setup w f E (.memory .empty []) files with
    refuses := fun hcause => Output.not_refuses_memory ((setup w f E (.memory .empty []) files).refuses hcause) }

theorem narrow (h : Tracks w f E O s) : Tracks w f (fun l => .erased l ∈ s.journal) O s :=
  ⟨h.toStandard, h.pinned, h.unfailed, h.resolved, id, h.refuses⟩

theorem change (h : Tracks w f E O s) (ht : t.Standard w f)
    (hpinned : ∀ l x, t.mappings.type? l = some x → s.mappings.type? l = some x ∨ t.isGiven x = false)
    (hknows : ∀ l, s.Knows l → t.Knows l)
    (hrecord : ∀ l r, t.record? l = some r → r ≠ .pending →
      s.record? l = some r ∨ ∃ a, r = .resolved a ∧ t.Justifies w f l a)
    (herased : ∀ l, .erased l ∈ t.journal → .erased l ∈ s.journal ∨ E l)
    (hrefuses : ∀ cause, t.output.Refuses cause → s.output.Refuses cause) : Tracks w f E O t := by
  refine ⟨ht, fun {l x} hx hg => ?_, fun {l x} hr => ?_, fun {l a} hr => ?_, fun {l} hl => ?_, fun {cause} hcause => ?_⟩
  · rcases hpinned l x hx with hold | hnew
    · refine h.pinned hold ?_
      rwa [isGiven, h.known, ← ht.known]
    · rw [hg] at hnew
      cases hnew
  · rcases hrecord l _ hr (by simp) with hold | ⟨_, heq, -⟩
    · exact h.unfailed hold
    · cases heq
  · rcases hrecord l _ hr (by simp) with hold | ⟨_, heq, hnew⟩
    · exact (h.resolved hold).mono hknows
    · cases heq
      exact hnew
  · exact (herased l hl).elim h.erased id
  · exact h.refuses (hrefuses cause hcause)

theorem quiet (h : Tracks w f E O s) (hq : Quiet s t) : Tracks w f E O t := by
  refine h.change (h.toStandard.quiet hq) (fun l x hx => Or.inl ?_) (fun l hl => ?_) (fun l r hr _ => Or.inl ?_)
    (fun l hl => Or.inl ?_) (fun cause hcause => ?_)
  · rwa [hq.mappings] at hx
  · rwa [Knows, hq.record?, hq.journal]
  · rwa [hq.record?] at hr
  · rwa [hq.journal] at hl
  · rwa [hq.output] at hcause

theorem mark (hfinds : f.FindsNew) (h : Tracks w f E O s) (hb : Binds s l bound isNew t) :
    Tracks w f E O (t.setRecord l .pending) := by
  refine h.change (h.toStandard.mark hb _) (fun m x hx => ?_) (fun m hm => ?_)
    (fun m r hr hne => Or.inl (hb.record?_of_mark hr hne)) (fun m hm => Or.inl ?_) (fun cause hcause => ?_)
  · by_cases hml : m = l
    · subst hml
      cases hb with
      | held _ => exact Or.inl hx
      | found hnone hq hu =>
        cases (Binds.found hnone hq hu).type?_self.symm.trans hx
        -- A type that is found for a location is not there already.
        refine Or.inr ?_
        rw [isGiven, (h.toStandard.mark (Binds.found hnone hq hu) .pending).known]
        exact hfinds s.names m bound (by rw [← h.features, hu])
    · exact Or.inl ((hb.type?_of_ne hml).symm.trans hx)
  · rcases hm with hm | hm
    · refine Or.inl ?_
      by_cases hml : m = l
      · rw [hml, record?_setRecord_self]
        rfl
      · rwa [hb.record?_mark_of_ne hml]
    · exact Or.inr (hb.journal_mark .pending ▸ List.mem_cons_of_mem _ hm)
  · rw [hb.journal_mark] at hm
    rcases List.mem_cons.mp hm with hm | hm
    · cases hm
    · exact hm
  · rwa [hb.output_mark] at hcause

theorem write {text : String} {r : Except Error Unit} (h : Tracks w f E O s) (hw : s.write l x text = (r, t)) :
    Tracks w f E O t ∧ ∀ m, s.Knows m → t.Knows m := by
  have ht := Standard.steady.write hw h.toStandard
  have hrefuses := (refuses_of_write hw).1
  rw [write_frame hw] at ht hrefuses ⊢
  exact ⟨h.change ht (fun _ _ hx => Or.inl hx) (fun _ hl => hl) (fun _ _ hr _ => Or.inl hr) (fun _ hl => Or.inl hl)
    hrefuses, fun _ hm => hm⟩

theorem settle (h : Tracks w f E O s) (hl : s.mappings.type? l = some bound)
    (hnew : isNew = true → w.configured.type? l = none) (hj : s.Justifies w f l a) :
    Tracks w f E O (s.settle l bound isNew a) := by
  have hknows : ∀ m, s.Knows m → (s.settle l bound isNew a).Knows m := by
    rintro m (hm | hm)
    · refine Or.inl ?_
      by_cases hml : m = l
      · rw [hml, record?_settle_self]
        rfl
      · rwa [record?_settle_of_ne hml]
    · exact Or.inr (journal_settle ▸ List.mem_cons_of_mem _ hm)
  refine h.change (h.toStandard.settle hl hnew) (fun m x hx => Or.inl (type?_of_settle hx)) hknows
    (fun m r hr _ => ?_) (fun m hm => Or.inl ?_) (fun cause hcause => ?_)
  · rcases record?_of_settle hr with ⟨rfl, rfl⟩ | hr
    · exact Or.inr ⟨a, rfl, hj.mono hknows⟩
    · exact Or.inl hr
  · rw [journal_settle] at hm
    rcases List.mem_cons.mp hm with hm | hm
    · cases hm
    · exact hm
  · rwa [output_settle] at hcause

theorem erase (h : Tracks w f E O s) (hl : E l) : Tracks w f E O (s.eraseRecord l) := by
  have hknows : ∀ m, s.Knows m → (s.eraseRecord l).Knows m := by
    rintro m (hm | hm)
    · by_cases hml : m = l
      · exact Or.inr (hml ▸ List.mem_cons_self)
      · rw [← record?_eraseRecord_of_ne hml] at hm
        exact Or.inl hm
    · exact Or.inr (List.mem_cons_of_mem _ hm)
  refine h.change (h.toStandard.congr ⟨rfl, rfl, rfl, .same rfl rfl⟩ rfl) (fun _ _ hx => Or.inl hx) hknows
    (fun m r hr _ => Or.inl ?_) (fun m hm => ?_) (fun _ hcause => hcause)
  · have hml : m ≠ l := by
      rintro rfl
      rw [record?_eraseRecord_self] at hr
      cases hr
    rwa [record?_eraseRecord_of_ne hml] at hr
  · rcases List.mem_cons.mp hm with hm | hm
    · cases hm
      exact Or.inr hl
    · exact Or.inl hm

theorem reply {r : Answer} (h : Tracks w f E O s) : Tracks w f E O (s.reply l r) := by
  refine h.change (h.toStandard.congr (Keeps.reply s l r).toSameSetup rfl) (fun _ _ hx => Or.inl hx)
    (fun m hm => hm.imp_right (List.mem_cons_of_mem _)) (fun _ _ hr _ => Or.inl hr) (fun m hm => Or.inl ?_)
    (fun _ hcause => hcause)
  rcases List.mem_cons.mp hm with hm | hm
  · cases hm
  · exact hm

end Tracks

/-! ### Requests that are answered -/

/-- What an answer says: there is a type only if it gives one, and the location has a record. -/
def Gives (w : Setup) (s : Session) (l : Location) (a : Option JavaType) : Prop :=
  (a = none ↔ w.Untyped l) ∧ (s.record? l).isSome

theorem Gives.keep (h : s.Gives w l a) (hk : Keeps s t) : t.Gives w l a := by
  obtain ⟨r, hr⟩ := Option.isSome_iff_exists.mp h.2
  refine ⟨h.1, ?_⟩
  rw [hk.record hr]
  rfl

theorem Stands.gives {ask : Location → Session → Outcome (Option JavaType)} {r : Answer} (h : Stands ask l s r t)
    (ho : s.Over w.documents) (hwaits : Waits w s l) (hl : s.record? l = some .pending) :
    Quiet s t ∧ ∃ b, r = .ok b ∧ t.Gives w l b := by
  obtain ⟨hq, hcase⟩ := h.waiting ho hwaits hl
  have hrecord : (t.record? l).isSome := by
    rw [hq.record?, hl]
    rfl
  rcases hcase with ⟨rfl, p, -, hlead, hcycle⟩ | ⟨target, n, y, -, hobject, hlead, -, rfl⟩
  · obtain ⟨y, hy⟩ := hwaits.bound hl
    refine ⟨hq, _, rfl, ⟨fun hnone => ?_, fun hl => absurd hcycle (hl.hops hlead).not_circular⟩, hrecord⟩
    rw [hy] at hnone
    cases hnone
  · refine ⟨hq, _, rfl, ⟨fun hnone => ?_, fun hl => absurd hobject (hl.hops hlead.hops).not_isObject⟩, hrecord⟩
    cases hnone

section Ask
variable {ask : Location → Session → Outcome (Option JavaType)} {node : Json} {generator : Generator} {source : Source}
  {e : Error} (hfinds : f.FindsNew) (hkeep : ∀ {m u r v}, ask m u = some (r, v) → Keeps u v)
  (hask : ∀ {m u b v}, ask m u = some (.ok b, v) → Ready w (fun _ => True) (Tracks w f E O) u m →
    Tracks w f E O v ∧ v.Gives w m b)
  (hready : Ready w (fun _ => True) (Tracks w f E O) s l) (hnew : s.record? l = none) (hb : Binds s l bound isNew t)
include hfinds hkeep hask hready hnew hb

/-- A generator that comes to its end shows that its location can be answered. -/
theorem Tracks.dispatch (hg : (t.setRecord l .pending).isGiven bound = false)
    (hd : (t.setRecord l .pending).Dispatches l node generator)
    (hrun : (generator ((t.setRecord l .pending).task l bound node)).run ask ((t.setRecord l .pending).opened l node) =
      some (.ok (a, source), u)) : Tracks w f E O u ∧ u.Justifies w f l a := by
  have hs := hready.holds.mark hfinds hb
  obtain ⟨kind, hschema, hk, hgen⟩ := hs.dispatches hb.type?_self hg hd
  have hfits := @Generators.standard_fits kind generator ((t.setRecord l .pending).task l bound node) hgen hk
  obtain ⟨hu, hy⟩ := Ready.run (fun hq hv => hv.quiet hq) hkeep hask (fun _ _ hk hm => hm.keep hk) hfits
    (fun m hm v hv => hready.dispatch (fun _ _ => trivial) hnew hb hschema hm hv) (hs.quiet (opened_quiet _ _ _)) hrun
  refine ⟨hu, ?_, ?_, fun m hm => Or.inl ?_⟩
  · have hy' := hy.mono fun m b hm => hm.1
    rw [task, hs.features] at hy'
    exact .generated hschema hk hgen hy'
  · have hends := Generator.standard_ends hgen hk hy
    refine ⟨fun hnone => ?_, fun hl => ?_⟩
    · subst hnone
      cases hends
    · cases (hl.kind hschema).symm.trans hk
  · rcases hm with hr | ⟨node', hschema', hm⟩
    · exact absurd hschema hr.not_schema
    · cases hschema.unique hschema'
      obtain ⟨b, hb⟩ := Generators.standard_asked hgen hk hy hm
      exact hb.2

theorem Tracks.produces (h : Produces ask l bound (t.setRecord l .pending) (.ok a) u) :
    Tracks w f E O u ∧ u.Justifies w f l a := by
  have hs := hready.holds.mark hfinds hb
  cases h with
  | given hg =>
    have hpinned := hs.pinned hb.type?_self hg
    refine ⟨hs, .pinned hpinned, ⟨fun hnone => (by cases hnone), fun hl => absurd hpinned (hl.not_pinned _)⟩, ?_⟩
    -- A pinned location neither refers to anything nor has a schema, so it needs nothing.
    rintro m (hr | ⟨_, hschema, -⟩)
    · exact absurd hpinned (hr.unpinned _)
    · exact absurd hpinned (hschema.unpinned _)
  | reference hg hn ht ha =>
    have hrefers := hs.refers hb.type?_self hg hn ht
    obtain ⟨hu, htype, hrecord⟩ := hask ha
      (hready.redirect (fun _ _ => trivial) hnew hb hrefers (hs.quiet (redirected_quiet _ _ _)))
    refine ⟨hu, .reference hrefers, htype.trans ⟨.reference hrefers, fun hl => hl.of_refers hrefers⟩, ?_⟩
    rintro m (hr | ⟨_, hschema, -⟩)
    · exact Or.inl (hrefers.unique hr ▸ hrecord)
    · exact absurd hschema hrefers.not_schema
  | @null node hg hr hk =>
    have hschema := hs.schema hb.type?_self hg hr
    refine ⟨hs.quiet (opened_quiet _ _ _), .null hschema hk, ⟨fun _ => .null hschema hk, fun _ => rfl⟩, ?_⟩
    rintro m (hr | ⟨_, hschema', hm⟩)
    · exact absurd hschema hr.not_schema
    · cases hschema.unique hschema'
      rcases hm.kind with hk' | hk' <;> rw [hk] at hk' <;> cases hk'
  | silent hg hd hrun _ => exact Tracks.dispatch hfinds hkeep hask hready hnew hb hg hd hrun
  | written hg hd hrun _ _ hw =>
    obtain ⟨hv, hj⟩ := Tracks.dispatch hfinds hkeep hask hready hnew hb hg hd hrun
    obtain ⟨hu, hknows⟩ := hv.write hw
    exact ⟨hu, hj.mono hknows⟩

end Ask

theorem Tracks.responds {ask : Location → Session → Outcome (Option JavaType)}
    (hstrict : f.value Feature.ignoreMissingTypes = false) (hfinds : f.FindsNew)
    (hkeep : ∀ {m u r v}, ask m u = some (r, v) → Keeps u v)
    (hask : ∀ {m u b v}, ask m u = some (.ok b, v) → Ready w (fun _ => True) (Tracks w f E O) u m →
      Tracks w f E O v ∧ v.Gives w m b)
    (hready : Ready w (fun _ => True) (Tracks w f E O) s l) (h : Responds ask l s (.ok a) t) :
    Tracks w f E O t ∧ t.Gives w l a := by
  have hs := hready.holds
  cases h with
  | resolved hr hq =>
    refine ⟨hs.quiet hq, (hs.resolved hr).type, ?_⟩
    rw [hq.record?, hr]
    rfl
  | failed hr => exact absurd hr hs.unfailed
  | pending hr hq hst =>
    obtain ⟨hq', b, hb, hgives⟩ := hst.gives (hs.quiet hq).documents (hready.waits.keep (.of_quiet hq))
      ((hq.record? l).trans hr)
    cases hb
    exact ⟨(hs.quiet hq).quiet hq', hgives⟩
  | settled hnew hb hp =>
    obtain ⟨hu, hj⟩ := Tracks.produces hfinds hkeep hask hready hnew hb hp
    have htype := ((Keeps.steady.produces hkeep hp).type record?_setRecord_self).trans hb.type?_self
    refine ⟨hu.settle htype (hb.unmapped hs.toStandard) hj, hj.type, ?_⟩
    rw [record?_settle_self]
    rfl
  | assumed _ hb hp hf _ =>
    -- Missing types are not ignored.
    rw [(Keeps.steady.produces hkeep hp).features, (hs.toStandard.mark hb _).features, hstrict] at hf
    cases hf

/-- Whatever is answered is justified, and no record is taken back for it. -/
theorem generateWithin_tracks (hstrict : f.value Feature.ignoreMissingTypes = false) (hfinds : f.FindsNew) {n : Nat}
    (h : generateWithin n l s = some (.ok a, t)) (hready : Ready w (fun _ => True) (Tracks w f E O) s l) :
    Tracks w f E O t ∧ t.Gives w l a := by
  induction n generalizing l s a t with
  | zero => cases h
  | succ n ih =>
    obtain ⟨_, u, hn, hr, rfl⟩ := generateWithin_responds h
    cases hn
    obtain ⟨hu, hgives⟩ := Tracks.responds hstrict hfinds generateWithin_keeps ih hready hr
    exact ⟨hu.reply, hgives.keep (Keeps.reply u l _)⟩

/-! ### Requests that fail -/

section Fail
variable {ask : Location → Session → Outcome (Option JavaType)} {e : Error} (hfinds : f.FindsNew)
  (hkeep : ∀ {m u r v}, ask m u = some (r, v) → Keeps u v)
  (hask : ∀ {m u b v}, ask m u = some (.ok b, v) → Ready w (fun _ => True) (Tracks w f E O) u m →
    Tracks w f E O v ∧ v.Gives w m b)
  (herror : ∀ {m u e v}, ask m u = some (.error e, v) → Ready w (fun _ => True) (Tracks w f E O) u m →
    Tracks w f E O v ∧ ∃ p, Relation.ReflTransGen w.Needs m p ∧ w.Obstacle f O p e.rootCause)

include hfinds hkeep hask herror in
theorem Tracks.produces_error (hready : Ready w (fun _ => True) (Tracks w f E O) s l) (hnew : s.record? l = none)
    (hb : Binds s l bound isNew t) (h : Produces ask l bound (t.setRecord l .pending) (.error e) u) :
    Tracks w f E O u ∧ ∃ p, Relation.ReflTransGen w.Needs l p ∧ w.Obstacle f O p e.rootCause := by
  have hs := hready.holds.mark hfinds hb
  cases h with
  | refused hg hstuck hq =>
    obtain ⟨hrefers, hnull, hschema⟩ := hs.stuck hstuck
    exact ⟨hs.quiet hq, l, .refl, .stuck (hs.unpinned hb.type?_self hg) hrefers hnull hschema⟩
  | reference hg hn ht ha =>
    have hrefers := hs.refers hb.type?_self hg hn ht
    obtain ⟨hu, p, hp, hobstacle⟩ := herror ha
      (hready.redirect (fun _ _ => trivial) hnew hb hrefers (hs.quiet (redirected_quiet _ _ _)))
    exact ⟨hu, p, hp.head (Or.inl hrefers), hobstacle⟩
  | @failed node generator _ _ hg hd hrun =>
    obtain ⟨kind, hschema, hk, hgen⟩ := hs.dispatches hb.type?_self hg hd
    have hfits := @Generators.standard_fits kind generator ((t.setRecord l .pending).task l bound node) hgen hk
    -- The generator passes on the error of a request, or fails by the answers it was given.
    obtain ⟨hu, ⟨m, hm, p, hp, hobstacle⟩ | hfails⟩ := Ready.run_error (fun hq hv => hv.quiet hq) hkeep hask herror
      (fun _ _ hk hm => hm.keep hk) hfits
      (fun m hm v hv => hready.dispatch (fun _ _ => trivial) hnew hb hschema hm hv) (hs.quiet (opened_quiet _ _ _)) hrun
    · exact ⟨hu, p, hp.head (Or.inr ⟨node, hschema, hm⟩), hobstacle⟩
    · have hfails' := hfails.mono fun m b hm => hm.1
      rw [task, hs.features] at hfails'
      exact ⟨hu, l, .refl, .failed hschema hk hgen hfails'⟩
  | unwritten hg hd hrun hfull _ hw =>
    have hcalm : Calm fun _ _ => True := ⟨fun _ _ => trivial, fun _ => trivial⟩
    obtain ⟨kind, hk, hgen, -, hy⟩ := hd.standard_yields hcalm (fun _ => trivial) hs.generators hrun
    have hemits := Setup.emits_of_source (hs.schema hb.type?_self hg hd.reads) hk hgen hy hfull
    obtain ⟨hv, -⟩ := Tracks.dispatch hfinds hkeep hask hready hnew hb hg hd hrun
    exact ⟨(hv.write hw).1, l, .refl, .refused hemits (hv.refuses ((refuses_of_write hw).2 _ rfl))⟩

end Fail

/-- A request fails for an obstacle at a location that is needed, and only then are records taken back. -/
theorem generateWithin_obstacle (hstrict : f.value Feature.ignoreMissingTypes = false) (hfinds : f.FindsNew)
    (hE : ∀ {l p cause}, Relation.ReflTransGen w.Needs l p → w.Obstacle f O p cause → E l) {n : Nat} {e : Error}
    (h : generateWithin n l s = some (.error e, t)) (hready : Ready w (fun _ => True) (Tracks w f E O) s l) :
    Tracks w f E O t ∧ ∃ p, Relation.ReflTransGen w.Needs l p ∧ w.Obstacle f O p e.rootCause := by
  induction n generalizing l s e t with
  | zero => cases h
  | succ n ih =>
    obtain ⟨_, u, hn, hr, rfl⟩ := generateWithin_responds h
    cases hn
    cases hr with
    | pending hr hq hst =>
      obtain ⟨-, b, hb, -⟩ := hst.gives (hready.holds.quiet hq).documents (hready.waits.keep (.of_quiet hq))
        ((hq.record? l).trans hr)
      cases hb
    | forgotten hnew hb hp _ =>
      obtain ⟨hu, p, hneeds, hobstacle⟩ := Tracks.produces_error hfinds generateWithin_keeps
        (generateWithin_tracks hstrict hfinds) ih hready hnew hb hp
      exact ⟨(hu.erase (hE hneeds hobstacle)).reply, p, hneeds, hobstacle⟩

/-- Where nothing is refused only requests for locations that are not sound fail, and only records of such locations
    are taken back. -/
theorem generateWithin_error (hstrict : f.value Feature.ignoreMissingTypes = false) (hfinds : f.FindsNew)
    (hE : ∀ l, ¬w.Sound f l → E l) {n : Nat} {e : Error} (h : generateWithin n l s = some (.error e, t))
    (hready : Ready w (fun _ => True) (Tracks w f E fun _ => False) s l) :
    Tracks w f E (fun _ => False) t ∧ ¬w.Sound f l := by
  have hunsound : ∀ {l p cause}, Relation.ReflTransGen w.Needs l p → w.Obstacle f (fun _ => False) p cause →
      ¬w.Sound f l := fun hp hobstacle hl => (hl _ hp).refused hobstacle
  obtain ⟨ht, p, hp, hobstacle⟩ := generateWithin_obstacle hstrict hfinds
    (fun hp hobstacle => hE _ (hunsound hp hobstacle)) h hready
  exact ⟨ht, hunsound hp hobstacle⟩

/-! ### New sessions and used ones -/

/-- What a recorded location needs is resolved, unless a record of it was taken back. -/
theorem Tracks.resolved_of_needs (h : Tracks w f E O s) (hidle : ∀ p, s.record? p ≠ some .pending)
    (hl : (s.record? l).isSome) (hkept : ∀ m, Relation.ReflTransGen w.Needs l m → .erased m ∉ s.journal)
    (hm : Relation.ReflTransGen w.Needs l m) : ∃ a, s.record? m = some (.resolved a) := by
  induction hm with
  | refl => exact resolved_of_recorded hidle (fun _ => h.unfailed) hl
  | tail hm hp ih =>
    obtain ⟨a, ha⟩ := ih
    have hknown := (h.resolved ha).needs _ hp
    exact resolved_of_recorded hidle (fun _ => h.unfailed) (hknown.resolve_right (hkept _ (hm.tail hp)))

theorem Tracks.sound (h : Tracks w f E O s) (hidle : ∀ p, s.record? p ≠ some .pending) (hl : (s.record? l).isSome)
    (hkept : ∀ m, Relation.ReflTransGen w.Needs l m → .erased m ∉ s.journal) : w.Sound f l := by
  intro m hm
  obtain ⟨a, ha⟩ := h.resolved_of_needs hidle hl hkept hm
  exact (h.resolved ha).typable

section Strict
variable {files : Files} (hstrict : f.value Feature.ignoreMissingTypes = false) (hfinds : f.FindsNew)
include hstrict hfinds

/-- A new session answers a request exactly if the location is sound. -/
theorem start_generate_ok_iff : (∃ b u, (w.start f (.memory .empty []) files).generate l = some (.ok b, u)) ↔
    w.Sound f l := by
  have hidle : ∀ p, (w.start f (.memory .empty []) files).record? p ≠ some .pending := by simp [setup_record?]
  constructor
  · rintro ⟨b, u, hb⟩
    obtain ⟨hu, -, hrecord⟩ := generateWithin_tracks hstrict hfinds hb
      (.idle hidle (Tracks.start w f (fun _ => False) files) trivial)
    exact hu.sound (fun p hp => hidle p ((generateWithin_keeps hb).pending hp)) hrecord fun m _ hm => hu.erased hm
  · intro hl
    have hstart := Tracks.start w f (fun m => ¬w.Sound f m) files
    obtain ⟨⟨r, u⟩, hr⟩ := Option.isSome_iff_exists.mp (generate_isSome hstart.documents hstart.generators l)
    cases r with
    | ok b => exact ⟨b, u, hr⟩
    | error e =>
      exact absurd hl (generateWithin_error hstrict hfinds (fun _ hm => hm) hr (.idle hidle hstart trivial)).2

/-- A request that is answered after one that failed would have been answered without it exactly if it needs no
    location whose record the failure took back. -/
theorem answered_after_failure_iff {l₁ l₂ : Location} {e : Error}
    (hfail : (w.start f (.memory .empty []) files).generate l₁ = some (.error e, s))
    (hok : s.generate l₂ = some (.ok a, t)) :
    (∃ b u, (w.start f (.memory .empty []) files).generate l₂ = some (.ok b, u)) ↔
      ∀ l, .erased l ∈ s.journal → ¬Relation.ReflTransGen w.Needs l₂ l := by
  have hidle : ∀ p, (w.start f (.memory .empty []) files).record? p ≠ some .pending := by simp [setup_record?]
  have hidle' : ∀ p, s.record? p ≠ some .pending := fun p hp => hidle p ((generateWithin_keeps hfail).pending hp)
  obtain ⟨hs, -⟩ := generateWithin_error hstrict hfinds (fun _ hm => hm) hfail
    (.idle hidle (Tracks.start w f (fun m => ¬w.Sound f m) files) trivial)
  rw [start_generate_ok_iff hstrict hfinds]
  constructor
  · intro hsound l hl hneeds
    exact hs.erased hl fun m hm => hsound m (hneeds.trans hm)
  · intro hkept
    obtain ⟨ht, -, hrecord⟩ := generateWithin_tracks hstrict hfinds hok (.idle hidle' hs.narrow trivial)
    exact ht.sound (fun p hp => hidle' p ((generateWithin_keeps hok).pending hp)) hrecord
      fun m hm he => hkept m (ht.erased he) hm

end Strict

end Session

/-! ### Orders and invoices -/

namespace Setup

/-- The document of two schemas that refer to each other. An order is also due on a date, for which there is no
    generator. -/
def salesDocument : Uri × Json :=
  (⟨"urn", "", none, none, none, .rootless "sales", none, none⟩,
    .object [("definitions", .object
      [("order", .object [("type", .string "object"), ("properties", .object
        [("invoice", .object [("$ref", .string "#/definitions/invoice")]), ("due", .object [("type", .string "date")])])]),
       ("invoice", .object [("type", .string "object"), ("properties", .object
        [("order", .object [("$ref", .string "#/definitions/order")])])])])])

def salesOrder : Location := ⟨salesDocument.1, "/definitions/order"⟩

def salesInvoice : Location := ⟨salesDocument.1, "/definitions/invoice"⟩

def sales : Setup := ⟨[salesDocument], []⟩

end Setup

namespace Session

open Setup (sales salesOrder salesInvoice)

/-- A session for orders and invoices. -/
def salesSession : Session := sales.start .empty (.memory .empty []) ⟨"/", []⟩

theorem sales_order_fails : ∃ e s a t, salesSession.generate salesOrder = some (.error e, s) ∧
    s.generate salesInvoice = some (.ok a, t) := by
  have hrun : ((salesSession.generate salesOrder).bind fun r => (r.2.generate salesInvoice).map fun r' =>
      (r.1.toBool, r'.1.toBool)) = some (false, true) := by decide +kernel
  obtain ⟨⟨r, s⟩, hr, hmap⟩ := Option.bind_eq_some_iff.mp hrun
  obtain ⟨⟨r', t⟩, hr', hpair⟩ := Option.map_eq_some_iff.mp hmap
  cases r with
  | ok a => cases hpair
  | error e =>
    cases r' with
    | error e' => cases hpair
    | ok a => exact ⟨e, s, a, t, hr, hr'⟩

theorem answered_after_failure_iff_sales : ∃ e s a t, salesSession.generate salesOrder = some (.error e, s) ∧
    s.generate salesInvoice = some (.ok a, t) ∧ ((∃ b u, salesSession.generate salesInvoice = some (.ok b, u)) ↔
      ∀ l, .erased l ∈ s.journal → ¬Relation.ReflTransGen sales.Needs salesInvoice l) := by
  obtain ⟨e, s, a, t, hfail, hok⟩ := sales_order_fails
  exact ⟨e, s, a, t, hfail, hok, answered_after_failure_iff rfl Features.findsNew_empty hfail hok⟩

/-- After an order has failed a request for the invoice is answered, although it needs an order and fails in a new
    session. -/
theorem answered_only_after_failure : ∃ e s a t e' u, salesSession.generate salesOrder = some (.error e, s) ∧
    s.generate salesInvoice = some (.ok a, t) ∧ salesSession.generate salesInvoice = some (.error e', u) := by
  have hnew : (salesSession.generate salesInvoice).map (fun r => r.1.toBool) = some false := by decide +kernel
  obtain ⟨e, s, a, t, hfail, hok⟩ := sales_order_fails
  obtain ⟨⟨r, u⟩, hr, hfresh⟩ := Option.map_eq_some_iff.mp hnew
  cases r with
  | ok b => cases hfresh
  | error e' => exact ⟨e, s, a, t, e', u, hfail, hok, hr⟩

end Session

end SchemaBeans
