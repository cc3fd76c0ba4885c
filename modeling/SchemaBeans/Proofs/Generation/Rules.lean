import SchemaBeans.Proofs.Generator.Failures
import SchemaBeans.Proofs.Json.Children
import SchemaBeans.Session.Generate

/-! What a generation can do, as rules.

A location is answered from its record, by following it while it is pending, or by producing its type
anew. `Responds`, `Stands` and `Produces` list the ways in which each of these can go, with everything
that was checked on the way. Proofs about generation go by cases on them and never open the functions
themselves. -/

namespace SchemaBeans

open Java (Source)

variable {ask : Location → Session → Outcome (Option JavaType)}

namespace Session

/-! ### Elementary updates -/

section Updates
variable {s : Session} {l m : Location} {r : Record}

@[simp]
theorem record?_setRecord_self : (s.setRecord l r).record? l = some r :=
  Table.get?_put_self _ _ _

theorem record?_setRecord_of_ne (h : m ≠ l) : (s.setRecord l r).record? m = s.record? m :=
  Table.get?_put_of_ne _ _ h

@[simp]
theorem record?_eraseRecord_self : (s.eraseRecord l).record? l = none :=
  Table.get?_erase_self _ _

theorem record?_eraseRecord_of_ne (h : m ≠ l) : (s.eraseRecord l).record? m = s.record? m :=
  Table.get?_erase_of_ne _ h

theorem isPending_iff : s.isPending l = true ↔ s.record? l = some .pending := by
  simp [isPending]

end Updates

/-- The session reads its schemas from given documents, and has read nothing else so far. -/
structure Over (documents : Table Uri Json) (s : Session) : Prop where
  catalog : s.catalog = .preloaded documents
  found : ∀ uri document, s.documents.found.get? uri = some document → documents.get? uri = some document

theorem Over.new {documents : Table Uri Json} {output : Output} {files : Files} :
    (Session.new (.preloaded documents) output files).Over documents :=
  ⟨rfl, fun _ _ h => by cases h⟩

/-- From `s` to `t` documents may have been added, each of them one that the catalog has, and none is lost. -/
structure Loads (s t : Session) : Prop where
  catalog : t.catalog = s.catalog
  found : ∀ {uri document}, t.documents.found.get? uri = some document →
    s.documents.found.get? uri = some document ∨ ∃ files, (s.catalog.load files uri).result = .ok (some document)
  kept : ∀ {uri document}, s.documents.found.get? uri = some document → t.documents.found.get? uri = some document

namespace Loads
variable {s t u : Session}

theorem same (hcatalog : t.catalog = s.catalog) (hdocuments : t.documents = s.documents) : Loads s t :=
  ⟨hcatalog, fun h => Or.inl (hdocuments ▸ h), fun h => hdocuments ▸ h⟩

theorem trans (h₁ : Loads s t) (h₂ : Loads t u) : Loads s u where
  catalog := h₂.catalog.trans h₁.catalog
  found := fun hu => by
    rcases h₂.found hu with ht | hload
    · exact h₁.found ht
    · rw [h₁.catalog] at hload
      exact Or.inr hload
  kept := fun hs => h₂.kept (h₁.kept hs)

theorem of_over (h : Loads s t) {documents : Table Uri Json} (ho : s.Over documents) : t.Over documents := by
  refine ⟨h.catalog.trans ho.catalog, fun uri document ht => ?_⟩
  rcases h.found ht with hs | ⟨files, hload⟩
  · exact ho.found uri document hs
  · rw [ho.catalog] at hload
    simp only [Catalog.preloaded] at hload
    split at hload <;> rename_i hd <;> cases hload
    exact hd

end Loads

/-- From `s` to `t` messages were noted and documents were read, and nothing else happened. -/
structure Quiet (s t : Session) : Prop where
  same : t = { s with documents := t.documents, log := t.log }
  loads : Loads s t

namespace Quiet
variable {s t u : Session}

theorem refl (s : Session) : Quiet s s := ⟨rfl, .same rfl rfl⟩

theorem trans (h₁ : Quiet s t) (h₂ : Quiet t u) : Quiet s u where
  same := by
    have h := h₂.same
    rw [h₁.same] at h
    exact h
  loads := h₁.loads.trans h₂.loads

theorem documents (h : Quiet s t) (documents : Table Uri Json) (ho : s.Over documents) : t.Over documents :=
  h.loads.of_over ho

theorem note (s : Session) (entry : LogEntry) : Quiet s (s.note entry) :=
  ⟨rfl, .same rfl rfl⟩

theorem say (s : Session) (level : LogLevel) (message : String) : Quiet s (s.say level message) :=
  note s _

theorem record? (h : Quiet s t) (l : Location) : t.record? l = s.record? l := by
  rw [h.same]
  rfl

theorem isPending (h : Quiet s t) (l : Location) : t.isPending l = s.isPending l := by
  rw [Session.isPending, Session.isPending, h.record?]

theorem records (h : Quiet s t) : t.records = s.records := by rw [h.same]

theorem mappings (h : Quiet s t) : t.mappings = s.mappings := by rw [h.same]

theorem names (h : Quiet s t) : t.names = s.names := by rw [h.same]

theorem features (h : Quiet s t) : t.features = s.features := by rw [h.same]

theorem known (h : Quiet s t) : t.known = s.known := by rw [h.same]

theorem generators (h : Quiet s t) : t.generators = s.generators := by rw [h.same]

theorem output (h : Quiet s t) : t.output = s.output := by rw [h.same]

theorem files (h : Quiet s t) : t.files = s.files := by rw [h.same]

theorem written (h : Quiet s t) : t.written = s.written := by rw [h.same]

theorem journal (h : Quiet s t) : t.journal = s.journal := by rw [h.same]

end Quiet

/-! ### Writing -/

section Writing
variable {s t : Session} {l : Location} {x : JavaType} {text : String}

theorem write_ok (h : s.write l x text = (.ok (), t)) :
    ∃ output files log, t = { s with output, files, log, written := s.written ++ [⟨l, x, text⟩] } := by
  unfold Session.write at h
  dsimp only at h
  split at h <;> cases h
  exact ⟨_, _, _, rfl⟩

theorem write_error {e : Error} (h : s.write l x text = (.error e, t)) :
    ∃ output files log, t = { s with output, files, log } := by
  unfold Session.write at h
  dsimp only at h
  split at h <;> cases h
  exact ⟨_, _, _, rfl⟩

theorem write_frame {r : Except Error Unit} (h : s.write l x text = (r, t)) :
    t = { s with output := t.output, files := t.files, log := t.log, written := t.written } := by
  cases r with
  | ok =>
    obtain ⟨_, _, _, rfl⟩ := write_ok h
    rfl
  | error =>
    obtain ⟨_, _, _, rfl⟩ := write_error h
    rfl

end Writing

/-! ### Reading schemas -/

/-- A document that is there after one was asked for was there before, or is the one that the catalog has. -/
theorem document_found (s : Session) (l : Location) {uri : Uri} {document : Json}
    (h : (s.documents.document s.catalog s.files l).2.1.found.get? uri = some document) :
    s.documents.found.get? uri = some document ∨ (s.catalog.load s.files uri).result = .ok (some document) := by
  unfold Documents.document at h
  split at h
  · exact Or.inl h
  · split at h <;> rename_i hload
    · exact Or.inl h
    · exact Or.inl h
    -- Only the document that was asked for can be new.
    · by_cases hu : uri = l.root
      · subst hu
        simp only [Table.get?_put_self, Option.some.injEq] at h
        subst h
        exact Or.inr (by rw [hload])
      · simp only [Table.get?_put_of_ne _ _ hu] at h
        exact Or.inl h

theorem resolve_quiet (s : Session) (l : Location) : Quiet s (s.resolve l).2 where
  same := rfl
  loads := by
    refine ⟨rfl, fun {uri document} hu => ?_, fun hs => Documents.get?_resolve hs l⟩
    have hdocument : (s.documents.document s.catalog s.files l).2.1.found.get? uri = some document := by
      revert hu
      simp only [resolve, Documents.resolve]
      split
      · rename_i heq
        rw [heq]
        exact id
      · rename_i heq
        rw [heq]
        split <;> exact id
    exact (document_found s l hdocument).imp_right fun hload => ⟨s.files, hload⟩

/-- Reading fails because there is no schema, or because the catalog says so. -/
theorem resolve_error {s : Session} {l : Location} {e : Error} (h : (s.resolve l).1 = .error e) :
    e.trail = [] ∨ (s.catalog.load s.files l.root).result = .error e := by
  simp only [Session.resolve, Documents.resolve] at h
  split at h
  · rename_i cause found log hdocument
    cases h
    unfold Documents.document at hdocument
    split at hdocument
    · cases hdocument
    · split at hdocument <;> rename_i hload <;> cases hdocument
      · exact Or.inr (by rw [hload])
      · exact Or.inl rfl
  · split at h <;> cases h
    exact Or.inl rfl

theorem Over.document {documents : Table Uri Json} {s : Session} (h : s.Over documents) (l : Location) :
    (s.documents.document s.catalog s.files l).1 = (documents.get? l.root).elim (.error (.missingSchema l)) .ok := by
  unfold Documents.document
  rw [h.catalog]
  cases hf : s.documents.found.get? l.root with
  | some d =>
    rw [h.found _ _ hf]
    rfl
  | none =>
    cases hd : documents.get? l.root with
    | none =>
      simp only [Catalog.preloaded, hd, Lookup.unknown]
      rfl
    | some d =>
      simp only [Catalog.preloaded, hd, Lookup.known]
      rfl

/-- Over given documents a location resolves to its node, and fails exactly if there is none. -/
theorem Over.resolve {documents : Table Uri Json} {s : Session} (h : s.Over documents) (l : Location) :
    (s.resolve l).1 = (l.node? documents).elim (.error (.missingSchema l)) .ok := by
  have hdoc := h.document l
  simp only [Session.resolve, Documents.resolve, Location.node?]
  split
  · rename_i heq
    rw [heq] at hdoc
    cases hd : documents.get? l.root <;> rw [hd] at hdoc <;> cases hdoc
    rfl
  · rename_i heq
    rw [heq] at hdoc
    cases hd : documents.get? l.root <;> rw [hd] at hdoc <;> cases hdoc
    simp only [Option.bind_some]
    split <;> rename_i hp <;> rw [hp] <;> rfl

/-! ### Pending locations -/

theorem walk_quiet {fuel : Nat} {seen : List Location} {lists : Nat} {l : Location} {s t : Session}
    {w : Except Error Walk} (h : walk fuel seen lists l s = (w, t)) : Quiet s t := by
  induction fuel generalizing seen lists l s with
  | zero =>
    cases h
    exact Quiet.refl _
  | succ fuel ih =>
    have hop : ∀ {r u}, s.hop l = (r, u) → Quiet s u := by
      intro r u hr
      have hq := resolve_quiet s l
      unfold Session.hop at hr
      split at hr <;> rename_i heq <;> rw [heq] at hq <;> cases hr <;> exact hq
    unfold walk at h
    split at h
    · cases h
      exact Quiet.refl _
    · split at h
      · cases h
        exact Quiet.refl _
      · split at h <;> rename_i heq
        · cases h
          exact hop heq
        · cases h
          exact hop heq
        · exact (hop heq).trans (ih h)
        · exact (hop heq).trans (ih h)

/-- The type that a pending location is answered with, given the answer for what it leads to: a location
    without a type leaves it its own. -/
def listed (own : Option JavaType) (lists : Nat) : Option JavaType → Option JavaType
  | none => own
  | some t => some (nested lists t)

/-- How a pending location is answered. -/
inductive Stands (ask : Location → Session → Outcome (Option JavaType)) (l : Location) (s : Session) :
    Answer → Session → Prop
  /-- The way it leads cannot be followed. -/
  | lost {e : Error} {t : Session} : walk (s.records.length + 1) [] 0 l s = (.error e, t) → Stands ask l s (.error e) t
  /-- It leads in a circle, or nowhere. -/
  | own {w : Walk} {t : Session} : walk (s.records.length + 1) [] 0 l s = (.ok w, t) →
      (w = .cycle ∨ ∃ lists, w = .stop l lists) → Stands ask l s (.ok (t.mappings.type? l)) t
  /-- It leads to another pending location. -/
  | pending {target : Location} {lists : Nat} {t : Session} :
      walk (s.records.length + 1) [] 0 l s = (.ok (.stop target lists), t) → target ≠ l →
      t.isPending target = true →
      Stands ask l s (.ok (listed (t.mappings.type? l) lists (t.mappings.type? target))) t
  /-- It leads to a location that is asked for, which fails. -/
  | failed {target : Location} {lists : Nat} {t u : Session} {e : Error} :
      walk (s.records.length + 1) [] 0 l s = (.ok (.stop target lists), t) → target ≠ l →
      t.isPending target = false → ask target t = some (.error e, u) → Stands ask l s (.error e) u
  /-- It leads to a location that is asked for. -/
  | asked {target : Location} {lists : Nat} {t u : Session} {a : Option JavaType} :
      walk (s.records.length + 1) [] 0 l s = (.ok (.stop target lists), t) → target ≠ l →
      t.isPending target = false → ask target t = some (.ok a, u) →
      Stands ask l s (.ok (listed (u.mappings.type? l) lists a)) u

theorem pendingType_stands {l : Location} {s t : Session} {a : Answer} (h : pendingType ask l s = some (a, t)) :
    Stands ask l s a t := by
  unfold pendingType at h
  split at h
  · rename_i hw
    cases h
    exact .lost hw
  · rename_i hw
    cases h
    exact .own hw (Or.inl rfl)
  · rename_i target lists u hw
    split at h
    · rename_i heq
      subst heq
      cases h
      exact .own hw (Or.inr ⟨lists, rfl⟩)
    · rename_i hne
      -- A pending target is answered with its own type, any other one is asked for.
      by_cases hp : u.isPending target = true
      · simp only [hp, ↓reduceIte] at h
        have hs : Stands ask l s _ u := .pending hw hne hp
        cases ht : u.mappings.type? target <;> rw [ht] at h hs <;> cases h <;> exact hs
      · simp only [hp, Bool.false_eq_true, ↓reduceIte] at h
        have hp' : u.isPending target = false := by simpa using hp
        split at h <;> rename_i hask
        · cases h
        · cases h
          exact .failed hw hne hp' hask
        · cases h
          exact .asked hw hne hp' hask
        · cases h
          exact .asked hw hne hp' hask

/-! ### New locations -/

/-- Whether a type is there already: a primitive one, or one known to exist. -/
def isGiven (s : Session) (t : JavaType) : Bool := t.isPrimitive || s.known.contains t

/-- The session that has read a schema, and has warned if the schema does not name its kind. -/
def opened (s : Session) (l : Location) (node : Json) : Session :=
  if (node.get? Kind.keyword).isSome then (s.resolve l).2
  else (s.resolve l).2.say .warn
    (l.text ++ ": missing type keyword, assuming '" ++ Kind.fallback ++ "'")

/-- The session before the target of a reference is asked for. -/
def redirected (s : Session) (l target : Location) : Session :=
  (s.resolve l).2.say .debug (l.text ++ ": alias of " ++ target.text)

theorem opened_quiet (s : Session) (l : Location) (node : Json) : Quiet s (s.opened l node) := by
  unfold opened
  split
  · exact resolve_quiet s l
  · exact (resolve_quiet s l).trans (Quiet.say _ _ _)

theorem redirected_quiet (s : Session) (l target : Location) : Quiet s (s.redirected l target) :=
  (resolve_quiet s l).trans (Quiet.say _ _ _)

/-- The node at a location is a schema: an object that is no reference. -/
structure Reads (s : Session) (l : Location) (node : Json) : Prop where
  resolved : (s.resolve l).1 = .ok node
  plain : Reference.target? l node = .ok none
  object : node.isObject = true

/-- The schema at a location is passed to a generator. -/
structure Dispatches (s : Session) (l : Location) (node : Json) (generator : Generator) : Prop where
  reads : s.Reads l node
  generator : ∃ kind, Kind.of l node = .ok (some kind) ∧ s.generators.get? kind = some generator

/-- Nothing can be done with the node at a location, or there is none. -/
structure Stuck (s : Session) (l : Location) : Prop where
  reference : ∀ node target, (s.resolve l).1 = .ok node → Reference.target? l node ≠ .ok (some target)
  null : ∀ node, s.Reads l node → Kind.of l node ≠ .ok none
  dispatch : ∀ node generator, ¬s.Dispatches l node generator

theorem Stuck.of_node {s : Session} {l : Location} {node : Json} (hn : (s.resolve l).1 = .ok node)
    (hr : ∀ target, Reference.target? l node ≠ .ok (some target)) (hk : s.Reads l node → Kind.of l node ≠ .ok none)
    (hd : ∀ generator, ¬s.Dispatches l node generator) : s.Stuck l := by
  refine ⟨fun node' target h => ?_, fun node' h => ?_, fun node' generator h => ?_⟩
  · cases hn.symm.trans h
    exact hr target
  · cases hn.symm.trans h.resolved
    exact hk h
  · cases hn.symm.trans h.reads.resolved
    exact hd generator h

/-- What a generator is given for a schema. -/
def task (s : Session) (l : Location) (requested : JavaType) (node : Json) : Task :=
  ⟨l, requested, node, s.features⟩

/-- How the type of a new location is produced. -/
inductive Produces (ask : Location → Session → Outcome (Option JavaType)) (l : Location)
    (requested : JavaType) (s : Session) : Answer → Session → Prop
  | given : s.isGiven requested = true → Produces ask l requested s (.ok (some requested)) s
  /-- It fails before anything is asked for. -/
  | refused {e : Error} {t : Session} : s.isGiven requested = false → s.Stuck l → Quiet s t →
      (e.trail = [] ∨ (s.catalog.load s.files l.root).result = .error e) → Produces ask l requested s (.error e) t
  | reference {node : Json} {target : Location} {a : Answer} {t : Session} : s.isGiven requested = false →
      (s.resolve l).1 = .ok node → Reference.target? l node = .ok (some target) →
      ask target (s.redirected l target) = some (a, t) → Produces ask l requested s a t
  | null {node : Json} : s.isGiven requested = false → s.Reads l node → Kind.of l node = .ok none →
      Produces ask l requested s (.ok none) (s.opened l node)
  /-- The generator fails. -/
  | failed {node : Json} {generator : Generator} {e : Error} {t : Session} : s.isGiven requested = false →
      s.Dispatches l node generator →
      (generator (s.task l requested node)).run ask (s.opened l node) = some (.error e, t) →
      Produces ask l requested s (.error e) t
  /-- The generator ends without a source. -/
  | silent {node : Json} {generator : Generator} {a : Option JavaType} {source : Source} {t : Session} :
      s.isGiven requested = false → s.Dispatches l node generator →
      (generator (s.task l requested node)).run ask (s.opened l node) = some (.ok (a, source), t) →
      source.isEmpty = true → Produces ask l requested s (.ok a) t
  /-- The source cannot be written. -/
  | unwritten {node : Json} {generator : Generator} {a : Option JavaType} {source : Source} {text : String}
      {e : Error} {t u : Session} : s.isGiven requested = false → s.Dispatches l node generator →
      (generator (s.task l requested node)).run ask (s.opened l node) = some (.ok (a, source), t) →
      source.isEmpty = false → source.finish = .ok text →
      t.write l (a.getD requested) text = (.error e, u) → Produces ask l requested s (.error e) u
  | written {node : Json} {generator : Generator} {a : Option JavaType} {source : Source} {text : String}
      {t u : Session} : s.isGiven requested = false → s.Dispatches l node generator →
      (generator (s.task l requested node)).run ask (s.opened l node) = some (.ok (a, source), t) →
      source.isEmpty = false → source.finish = .ok text →
      t.write l (a.getD requested) text = (.ok (), u) → Produces ask l requested s (.ok a) u

/-- Producing a type, with the sessions in between written out. -/
theorem produce_eq (l : Location) (requested : JavaType) (s : Session) :
    produce ask l requested s =
      if s.isGiven requested then some (.ok (some requested), s)
      else match (s.resolve l).1 with
        | .error e => some (.error e, (s.resolve l).2)
        | .ok node => match Reference.target? l node with
          | .error e => some (.error e, (s.resolve l).2)
          | .ok (some target) => ask target (s.redirected l target)
          | .ok none =>
            if !node.isObject then some (.error (.unsupported l .notObject), (s.resolve l).2)
            else match Kind.of l node with
              | .error e => some (.error e, s.opened l node)
              | .ok none => some (.ok none, s.opened l node)
              | .ok (some kind) => match s.generators.get? kind with
                | none => some (.error (.unsupportedKind l kind), s.opened l node)
                | some generator => perform ask generator (s.task l requested node) (s.opened l node) := by
  have hgen : ∀ node, (s.opened l node).generators = s.generators := fun node => (opened_quiet s l node).generators
  have hfeat : ∀ node, (s.opened l node).features = s.features := fun node => (opened_quiet s l node).features
  -- What is dispatched is the schema that was opened, with a warning if it names no kind.
  have hdispatch : ∀ node u, s.resolve l = (.ok node, u) → dispatch ask l requested node u =
      if !node.isObject then some (.error (.unsupported l .notObject), u)
      else match Kind.of l node with
        | .error e => some (.error e, s.opened l node)
        | .ok none => some (.ok none, s.opened l node)
        | .ok (some kind) => match s.generators.get? kind with
          | none => some (.error (.unsupportedKind l kind), s.opened l node)
          | some generator => perform ask generator (s.task l requested node) (s.opened l node) := by
    intro node u hu
    have hopen : s.opened l node = if (node.get? Kind.keyword).isSome then u
        else u.say .warn (l.text ++ ": missing type keyword, assuming '" ++ Kind.fallback ++ "'") := by
      rw [opened, hu]
    rw [← hgen node, task, ← hfeat node, hopen]
    rfl
  rcases hres : s.resolve l with ⟨_ | node, u⟩
  · rw [produce, hres]
    rfl
  · simp only [produce, redirected, hres, hdispatch node u hres]
    rfl

theorem perform_produces {l : Location} {requested : JavaType} {node : Json} {generator : Generator}
    {s t : Session} {a : Answer} (hg : s.isGiven requested = false) (hd : s.Dispatches l node generator)
    (h : perform ask generator (s.task l requested node) (s.opened l node) = some (a, t)) :
    Produces ask l requested s a t := by
  unfold perform at h
  split at h
  · cases h
  · rename_i hrun
    cases h
    exact .failed hg hd hrun
  · rename_i hrun
    split at h
    · rename_i hempty
      cases h
      exact .silent hg hd hrun hempty
    · rename_i hempty
      have hempty' := Bool.eq_false_iff.mpr hempty
      split at h
      · cases h
      · rename_i hfin
        split at h <;> rename_i hwrite <;> cases h
        · exact .unwritten hg hd hrun hempty' hfin hwrite
        · exact .written hg hd hrun hempty' hfin hwrite

theorem produce_produces {l : Location} {requested : JavaType} {s t : Session} {a : Answer}
    (h : produce ask l requested s = some (a, t)) : Produces ask l requested s a t := by
  rw [produce_eq] at h
  split at h
  · rename_i hg
    cases h
    exact .given hg
  · rename_i hg
    have hg' : s.isGiven requested = false := Bool.eq_false_iff.mpr hg
    split at h
    · rename_i hn
      cases h
      -- There is no node, so none of the ways on is open.
      refine .refused hg' ⟨fun node _ h => ?_, fun node h => ?_, fun node _ h => ?_⟩ (resolve_quiet s l) (resolve_error hn)
      · cases hn.symm.trans h
      · cases hn.symm.trans h.resolved
      · cases hn.symm.trans h.reads.resolved
    · rename_i node hn
      split at h
      · rename_i hr
        cases h
        exact .refused hg' (.of_node hn (fun _ h => by cases hr.symm.trans h) (fun h => by cases hr.symm.trans h.plain)
          (fun _ h => by cases hr.symm.trans h.reads.plain)) (resolve_quiet s l) (Or.inl (Reference.trail_of_target? hr))
      · rename_i hr
        exact .reference hg' hn hr h
      · rename_i hr
        have hplain : ∀ target, Reference.target? l node ≠ .ok (some target) := fun _ h => by cases hr.symm.trans h
        split at h
        · rename_i hobj
          cases h
          exact .refused hg' (.of_node hn hplain (fun h => by rw [h.object] at hobj; cases hobj)
            (fun _ h => by rw [h.reads.object] at hobj; cases hobj)) (resolve_quiet s l) (Or.inl rfl)
        · rename_i hobj
          have reads : s.Reads l node := ⟨hn, hr, by simpa using hobj⟩
          split at h
          · rename_i hk
            cases h
            refine .refused hg' (.of_node hn hplain (fun _ h => by cases hk.symm.trans h) ?_) (opened_quiet s l node)
              (Or.inl (Kind.trail_of_error hk))
            rintro generator ⟨-, kind, hk', -⟩
            cases hk.symm.trans hk'
          · rename_i hk
            cases h
            exact .null hg' reads hk
          · rename_i kind hk
            split at h
            · rename_i hgen
              cases h
              refine .refused hg' (.of_node hn hplain (fun _ h => by cases hk.symm.trans h) ?_) (opened_quiet s l node)
                (Or.inl rfl)
              rintro generator ⟨-, kind', hk', hgen'⟩
              cases hk.symm.trans hk'
              cases hgen.symm.trans hgen'
            · rename_i generator hgen
              exact perform_produces hg' ⟨reads, kind, hk, hgen⟩ h

/-! ### Binding and settling -/

/-- How a location is bound to a type. -/
inductive Binds (s : Session) (l : Location) : JavaType → Bool → Session → Prop
  | held {t : JavaType} : s.mappings.type? l = some t → Binds s l t false s
  | found {t : JavaType} {names : Names} {u : Session} : s.mappings.type? l = none → Quiet s u →
      s.names.unique (s.features.value Feature.defaultPackage) (typeName l) = (t, names) →
      Binds s l t true { u with names, mappings := s.mappings.put ⟨l, some t⟩ }

theorem bindType_binds {s t : Session} {l : Location} {bound : JavaType} {isNew : Bool}
    (h : s.bindType l = (bound, isNew, t)) : Binds s l bound isNew t := by
  unfold bindType at h
  split at h
  · rename_i ht
    cases h
    exact .held ht
  · rename_i ht
    cases h
    exact .found ht (Quiet.say s _ _) rfl

/-- The session in which a location has just become pending. -/
def marked (s : Session) (l : Location) : Session := (s.bindType l).2.2.setRecord l .pending

theorem marked_binds (s : Session) (l : Location) :
    Binds s l (s.bindType l).1 (s.bindType l).2.1 (s.bindType l).2.2 :=
  bindType_binds rfl

namespace Binds
variable {s t : Session} {l m : Location} {bound : JavaType} {isNew : Bool}

theorem type?_self (h : Binds s l bound isNew t) : t.mappings.type? l = some bound := by
  cases h with
  | held ht => exact ht
  | found _ _ _ => simp [Mappings.type?, Mappings.put]

theorem type?_of_ne (h : Binds s l bound isNew t) (hm : m ≠ l) : t.mappings.type? m = s.mappings.type? m := by
  cases h with
  | held _ => rfl
  | found _ _ _ => simp only [Mappings.type?, Mappings.put, Table.get?_put_of_ne _ _ hm]

theorem record? (h : Binds s l bound isNew t) (m : Location) : t.record? m = s.record? m := by
  cases h with
  | held _ => rfl
  | found _ hq _ => exact hq.record? m

theorem frame (h : Binds s l bound isNew t) :
    t = { s with names := t.names, mappings := t.mappings, documents := t.documents, log := t.log } := by
  cases h with
  | held _ => rfl
  | found _ hq _ =>
    have hs := hq.same
    simp only at hs ⊢
    rw [hs]

theorem loads (h : Binds s l bound isNew t) : Loads s t := by
  cases h with
  | held _ => exact .same rfl rfl
  | found _ hq _ => exact hq.loads.trans (.same rfl rfl)

theorem output_mark (h : Binds s l bound isNew t) (r : Record) : (t.setRecord l r).output = s.output := by
  rw [h.frame]
  rfl

theorem written_mark (h : Binds s l bound isNew t) (r : Record) : (t.setRecord l r).written = s.written := by
  rw [h.frame]
  rfl

theorem journal_mark (h : Binds s l bound isNew t) (r : Record) :
    (t.setRecord l r).journal = .recorded l r :: s.journal := by
  rw [h.frame]
  rfl

theorem record?_mark_of_ne (h : Binds s l bound isNew t) (hm : m ≠ l) :
    (t.setRecord l .pending).record? m = s.record? m :=
  (record?_setRecord_of_ne hm).trans (h.record? m)

theorem record?_of_mark {r : Record} (h : Binds s l bound isNew t)
    (hr : (t.setRecord l .pending).record? m = some r) (hne : r ≠ .pending) : s.record? m = some r := by
  have hm : m ≠ l := by
    rintro rfl
    cases record?_setRecord_self.symm.trans hr
    exact hne rfl
  exact (h.record?_mark_of_ne hm).symm.trans hr

end Binds

theorem marked_type? (s : Session) (l : Location) : (s.marked l).mappings.type? l = some (s.bindType l).1 :=
  (s.marked_binds l).type?_self

theorem bindType_type (s : Session) (l : Location) : (s.bindType l).1 =
    (s.mappings.type? l).getD (s.names.unique (s.features.value Feature.defaultPackage) (typeName l)).1 := by
  unfold bindType
  split <;> rename_i hl <;> rw [hl] <;> rfl

section Settle
variable {s : Session} {l m : Location} {bound x : JavaType} {isNew : Bool} {a : Option JavaType} {r : Record}

@[simp]
theorem record?_settle_self : (s.settle l bound isNew a).record? l = some (.resolved a) :=
  record?_setRecord_self

theorem record?_settle_of_ne (h : m ≠ l) : (s.settle l bound isNew a).record? m = s.record? m := by
  unfold settle
  rw [record?_setRecord_of_ne h]
  split <;> rfl

theorem type?_settle_self : (s.settle l bound isNew a).mappings.type? l =
    if isNew && a ≠ some bound then none else s.mappings.type? l := by
  unfold settle
  split
  · simp [setRecord, Mappings.type?, Mappings.put]
  · rfl

theorem type?_settle_of_ne (h : m ≠ l) : (s.settle l bound isNew a).mappings.type? m = s.mappings.type? m := by
  unfold settle
  split
  · simp only [setRecord, Mappings.type?, Mappings.put, Table.get?_put_of_ne _ _ h]
    rfl
  · rfl

theorem settle_frame : s.settle l bound isNew a =
    { s with names := (s.settle l bound isNew a).names, mappings := (s.settle l bound isNew a).mappings
             records := s.records.put l (.resolved a), log := (s.settle l bound isNew a).log
             journal := .recorded l (.resolved a) :: s.journal } := by
  unfold settle
  split <;> rfl

theorem output_settle : (s.settle l bound isNew a).output = s.output := by rw [settle_frame]

theorem written_settle : (s.settle l bound isNew a).written = s.written := by rw [settle_frame]

theorem journal_settle : (s.settle l bound isNew a).journal = .recorded l (.resolved a) :: s.journal := by
  rw [settle_frame]

theorem record?_of_settle (h : (s.settle l bound isNew a).record? m = some r) :
    m = l ∧ r = .resolved a ∨ s.record? m = some r := by
  by_cases hm : m = l
  · subst hm
    cases record?_settle_self.symm.trans h
    exact Or.inl ⟨rfl, rfl⟩
  · exact Or.inr ((record?_settle_of_ne hm).symm.trans h)

theorem type?_of_settle (h : (s.settle l bound isNew a).mappings.type? m = some x) : s.mappings.type? m = some x := by
  by_cases hm : m = l
  · subst hm
    rw [type?_settle_self] at h
    split at h
    · cases h
    · exact h
  · rwa [type?_settle_of_ne hm] at h

end Settle

/-! ### Answers -/

/-- How a request is answered. -/
inductive Responds (ask : Location → Session → Outcome (Option JavaType)) (l : Location) (s : Session) :
    Answer → Session → Prop
  | resolved {a : Option JavaType} {t : Session} : s.record? l = some (.resolved a) → Quiet s t →
      Responds ask l s (.ok a) t
  | failed {t : JavaType} : s.record? l = some (.failed t) → Responds ask l s (.ok (some t)) s
  | pending {a : Answer} {t u : Session} : s.record? l = some .pending → Quiet s t → Stands ask l t a u →
      Responds ask l s a u
  | settled {bound : JavaType} {isNew : Bool} {a : Option JavaType} {t u : Session} : s.record? l = none →
      Binds s l bound isNew t → Produces ask l bound (t.setRecord l .pending) (.ok a) u →
      Responds ask l s (.ok a) (u.settle l bound isNew a)
  /-- It fails, and its type is taken to exist. -/
  | assumed {bound : JavaType} {isNew : Bool} {e : Error} {t u v : Session} : s.record? l = none →
      Binds s l bound isNew t → Produces ask l bound (t.setRecord l .pending) (.error e) u →
      u.features.value Feature.ignoreMissingTypes = true → Quiet u v →
      Responds ask l s (.ok (some bound)) (v.setRecord l (.failed bound))
  /-- It fails, and can be asked for again. -/
  | forgotten {bound : JavaType} {isNew : Bool} {e : Error} {t u : Session} : s.record? l = none →
      Binds s l bound isNew t → Produces ask l bound (t.setRecord l .pending) (.error e) u →
      u.features.value Feature.ignoreMissingTypes = false →
      Responds ask l s (.error (.generation l e)) (u.eraseRecord l)

theorem respond_responds {l : Location} {s t : Session} {a : Answer} (h : respond ask l s = some (a, t)) :
    Responds ask l s a t := by
  unfold respond at h
  split at h
  · rename_i hr
    cases h
    exact .resolved hr (Quiet.say s _ _)
  · rename_i hr
    cases h
    exact .failed hr
  · rename_i hr
    exact .pending hr (Quiet.say s _ _) (pendingType_stands h)
  · rename_i hr
    rcases hb : s.bindType l with ⟨bound, isNew, t⟩
    have binds := bindType_binds hb
    simp only [hb] at h
    split at h
    · cases h
    · rename_i hp
      cases h
      exact .settled hr binds (produce_produces hp)
    · rename_i u hp
      have hp' := produce_produces hp
      unfold giveUp at h
      split at h
      · rename_i hf
        cases h
        exact .assumed hr binds hp' hf (Quiet.say u _ _)
      · rename_i hf
        cases h
        exact .forgotten hr binds hp' (Bool.eq_false_iff.mpr hf)

/-- What was answered within a bound was answered by the rules, and noted in the journal. -/
theorem generateWithin_responds {fuel : Nat} {l : Location} {s t : Session} {a : Answer}
    (h : generateWithin fuel l s = some (a, t)) :
    ∃ n u, fuel = n + 1 ∧ Responds (generateWithin n) l s a u ∧ t = u.reply l a := by
  cases fuel with
  | zero => cases h
  | succ n =>
    unfold generateWithin at h
    split at h
    · cases h
    · rename_i hr
      cases h
      exact ⟨n, _, rfl, respond_responds hr, rfl⟩

end Session

end SchemaBeans
