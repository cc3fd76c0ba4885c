import SchemaBeans.Proofs.Generation.Release
import SchemaBeans.Proofs.Generation.Tolerance

/-! Who decides on the type of a location.

A location that becomes pending is bound to a type, and from then on its schema is read only if that type is not there
already. If it is read, it decides: a reference passes on the type of its target, an array makes a list of the type of
its items, and an object is written under the type that is bound to it (`Session.Decides`). Main statement: this is so
for every location of every run, except where the name that was found for a location happens to be that of a primitive
type or of one that exists (`Session.schema_decides_unless_given`). -/

namespace SchemaBeans

open Java (Source)
open SchemaBeans.Numbering (candidate)

/-! ### Schemas -/

/-- The type that a schema decides on, if the types of other locations are as `D` says, and whether it is one of its own,
    which has a source. -/
inductive Task.Decides (D : Location → Option JavaType → Prop) (task : Task) : Option JavaType → Bool → Prop
  | plain {a : Option JavaType} : Setup.Plain task.location task.schema a → Decides D task a false
  /-- Listed values count for nothing. -/
  | simple : Kind.of task.location task.schema = .ok (some "string") → (task.schema.get? "enum").isSome →
      task.features.value Feature.simplePlainTypes = true → Decides D task (some .string) false
  | list {fields : List (String × Json)} {target : Location} {y : JavaType} :
      Kind.of task.location task.schema = .ok (some "array") → task.schema.get? "items" = some (.object fields) →
      Reference.typeTarget? (task.location.child "items") (.object fields) = .ok (some target) → D target (some y) →
      Decides D task (some y.listOf) false
  | object : Kind.of task.location task.schema = .ok (some "object") → Decides D task (some task.requested) true
  | values : Kind.of task.location task.schema = .ok (some "string") → (task.schema.get? "enum").isSome →
      task.features.value Feature.simplePlainTypes = false → Decides D task (some task.requested) true

section Schemas
variable {D D' : Location → Option JavaType → Prop} {task : Task} {a : Option JavaType} {emits : Bool}

theorem Task.Decides.mono (h : task.Decides D a emits) (hD : ∀ m b, D m b → D' m b) : task.Decides D' a emits := by
  cases h with
  | plain h => exact .plain h
  | simple hk he hf => exact .simple hk he hf
  | list hk hi ht hy => exact .list hk hi ht (hD _ _ hy)
  | object hk => exact .object hk
  | values hk he hf => exact .values hk he hf

/-- The built-in generators end as the schema decides. -/
theorem Generator.standard_decides {kind : String} {generator : Generator} {source : Source}
    (hg : Generators.standard.get? kind = some generator) (hk : Kind.of task.location task.schema = .ok (some kind))
    (h : (generator task).Yields D a source) : task.Decides D a (!source.isEmpty) := by
  rcases Generators.standard_cases hg with ⟨rfl, rfl⟩ | ⟨rfl, rfl⟩ | ⟨rfl, rfl⟩ | ⟨t, rfl, ht⟩
  -- A class is never empty.
  · have hfull : source.isEmpty = false := by
      by_contra hempty
      exact ((object_ends hk h).silent (Bool.eq_true_of_not_eq_false hempty)).1 hk
    obtain ⟨rfl, -⟩ := (object_ends hk h).written hfull
    rw [hfull]
    exact .object hk
  · obtain ⟨fields, target, y, hi, ht, hy, rfl, rfl⟩ := array_yields h
    exact .list hk hi ht hy
  · unfold string at h
    split at h
    · rename_i he
      cases h
      exact .plain (.string hk he)
    · rename_i listed he
      have hsome : (task.schema.get? "enum").isSome := by rw [he]; rfl
      split at h
      · rename_i hfeature
        cases h
        exact .simple hk hsome hfeature
      · rename_i hfeature
        split at h
        · cases h
          rw [isEmpty_enumSource]
          exact .values hk hsome (Bool.eq_false_iff.mpr hfeature)
        · cases h
  · cases h
    rcases ht with ⟨rfl, rfl⟩ | ⟨rfl, rfl⟩ | ⟨rfl, rfl⟩
    · exact .plain (.integer hk)
    · exact .plain (.number hk)
    · exact .plain (.boolean hk)

end Schemas

namespace Session
variable {mappings : List Mapping} {path : List Session} {H : Session → Prop} {s t u v : Session} {l m : Location}
  {x bound : JavaType} {isNew : Bool} {a b : Option JavaType} {n : Nat}

/-! ### Locations -/

/-- What another location is worth to one that became pending in `v` and has got its type in `t`: its type, or what a
    request for it was answered with in between if it was pending all the time. -/
inductive Supplies (v t : Session) (l : Location) (a : Option JavaType) (target : Location) (b : Option JavaType) : Prop
  | finished : t.record? target = some (.resolved b) → Supplies v t l a target b
  | pending {before after : List Event} : v.record? target = some .pending → v.journal <:+ before →
      .answered target (.ok b) :: before <:+ after → .recorded l (.resolved a) :: after <:+ t.journal →
      Supplies v t l a target b

/-- The schema that is read in `v` decides on the type of a location, which is `x` if it is one of its own. -/
inductive Decides (v t : Session) (l : Location) (x : JavaType) (a : Option JavaType) : Prop
  | reference {node : Json} {target : Location} : (v.resolve l).1 = .ok node →
      Reference.target? l node = .ok (some target) → Supplies v t l a target a → Decides v t l x a
  | schema {node : Json} {emits : Bool} : v.Reads l node → (v.task l x node).Decides (Supplies v t l a) a emits →
      (emits = true → ∃ e ∈ t.written, e.location = l ∧ e.type = x) → Decides v t l x a

/-- How a location that became pending in `v` came to its type in `t`: it is the type that the location was bound to if
    that was there already, and is left to the schema otherwise. -/
structure Gets (v t : Session) (l : Location) (x : JavaType) (a : Option JavaType) : Prop where
  now : v.journal.head? = some (.recorded l .pending)
  bound : v.mappings.type? l = some x
  given : v.isGiven x = true → a = some x
  decided : v.isGiven x = false → Decides v t l x a

/-- From `s` to `t` the types of locations stay, sources stay written, and the journal grows. -/
structure Carries (s t : Session) : Prop where
  resolved : ∀ {l a}, s.record? l = some (.resolved a) → t.record? l = some (.resolved a)
  journal : s.journal <:+ t.journal
  written : s.written ⊆ t.written

namespace Carries

theorem of_along (h : Along s t) : Carries s t := ⟨h.record, h.journal, h.written⟩

theorem change {e : Event} (hl : ∀ b, s.record? l ≠ some (.resolved b)) (hr : ∀ m, m ≠ l → t.record? m = s.record? m)
    (hj : t.journal = e :: s.journal) (hw : t.written = s.written) : Carries s t where
  resolved := fun {m b} hm => by
    have hml : m ≠ l := by
      rintro rfl
      exact hl b hm
    rwa [hr m hml]
  journal := hj ▸ List.suffix_cons _ _
  written := fun _ he => by rwa [hw]

theorem supplies (h : Carries t u) (hs : Supplies v t l a m b) : Supplies v u l a m b := by
  cases hs with
  | finished hr => exact .finished (h.resolved hr)
  | pending hr hbefore hanswer hend => exact .pending hr hbefore hanswer (hend.trans h.journal)

theorem gets (h : Carries t u) (hs : Gets v t l x a) : Gets v u l x a := by
  refine ⟨hs.now, hs.bound, hs.given, fun hg => ?_⟩
  cases hs.decided hg with
  | reference hn ht hsupplies => exact .reference hn ht (h.supplies hsupplies)
  | schema hreads hdecides hwritten =>
    refine .schema hreads (hdecides.mono fun _ _ hs => h.supplies hs) fun hemits => ?_
    obtain ⟨e, he, hsource⟩ := hwritten hemits
    exact ⟨e, h.written he, hsource⟩

end Carries

/-- A location that is answered is finished, unless it was pending before. -/
theorem generateWithin_record (h : generateWithin n l s = some (.ok a, t)) :
    s.record? l = some .pending ∨ t.record? l = some (.resolved a) ∨ ∃ y, t.record? l = some (.failed y) := by
  obtain ⟨_, u, -, hr, rfl⟩ := generateWithin_responds h
  cases hr with
  | resolved hr hq => exact Or.inr (Or.inl ((hq.record? l).trans hr))
  | failed hr => exact Or.inr (Or.inr ⟨_, hr⟩)
  | pending hr _ _ => exact Or.inl hr
  | settled _ _ _ => exact Or.inr (Or.inl record?_settle_self)
  | assumed _ _ _ _ _ => exact Or.inr (Or.inr ⟨_, record?_setRecord_self⟩)

theorem Produces.gets (hp : Produces (generateWithin n) l bound v (.ok a) u)
    (hnow : v.journal.head? = some (.recorded l .pending)) (hl : v.record? l = some .pending)
    (hbound : v.mappings.type? l = some bound) (hbuiltin : v.generators = .standard)
    (hunfailed : ∀ {m y}, u.record? m ≠ some (.failed y)) : Gets v (u.settle l bound isNew a) l bound a := by
  have hpending : u.record? l = some .pending := hp.along.record hl
  have hjournal : (u.settle l bound isNew a).journal = .recorded l (.resolved a) :: u.journal := journal_settle
  -- What is supplied by a request is pending, and was so before, or is finished for good.
  have hsupplies : ∀ {m w b w'}, Along v w → generateWithin n m w = some (.ok b, w') → Along w' u →
      Supplies v (u.settle l bound isNew a) l a m b := by
    intro m w b w' hvw ha hwu
    rcases generateWithin_record ha with hr | hr | ⟨y, hr⟩
    · obtain ⟨_, before, -, hresponds, rfl⟩ := generateWithin_responds ha
      have hbefore := (Along.responds generateWithin_along hresponds).journal
      exact .pending (hvw.pending hr) (hvw.journal.trans hbefore) hwu.journal (hjournal ▸ List.suffix_refl _)
    · have hu := hwu.record hr
      have hml : m ≠ l := by
        rintro rfl
        cases hpending.symm.trans hu
      exact .finished ((record?_settle_of_ne hml).trans hu)
    · exact absurd (hwu.record hr) hunfailed
  -- A generator that comes to its end has followed the schema.
  have hgenerator : ∀ {node generator source w}, v.Dispatches l node generator →
      (generator (v.task l bound node)).run (generateWithin n) (v.opened l node) = some (.ok (a, source), w) →
      Along w u → (v.task l bound node).Decides (Supplies v (u.settle l bound isNew a) l a) a (!source.isEmpty) := by
    intro node generator source w hd hrun hwu
    obtain ⟨kind, hk, hgen, -, hy⟩ := hd.standard_yields Along.steady.toCalm generateWithin_along hbuiltin hrun
    refine Generator.standard_decides hgen hk (hy.mono ?_)
    rintro m b ⟨q, q', hvq, ha, hq'⟩
    exact hsupplies hvq ha (Along.steady.trans hq' hwu)
  refine ⟨hnow, hbound, fun hgiven => ?_, fun hgiven => ?_⟩
  · cases hp with
    | given _ => rfl
    | reference hg _ _ _ => cases hgiven.symm.trans hg
    | null hg _ _ => cases hgiven.symm.trans hg
    | silent hg _ _ _ => cases hgiven.symm.trans hg
    | written hg _ _ _ _ _ => cases hgiven.symm.trans hg
  · have hrefl := Along.steady.quiet (Quiet.refl u)
    cases hp with
    | given hg => cases hgiven.symm.trans hg
    | @reference node target _ _ _ hn ht ha =>
      exact .reference hn ht (hsupplies (Along.steady.quiet (redirected_quiet v l target)) ha hrefl)
    | null _ hreads hk => exact .schema hreads (.plain (.null hk)) (by simp)
    | silent _ hd hrun hempty => exact .schema hd.reads (hgenerator hd hrun hrefl) (by simp [hempty])
    | written _ hd hrun hfull _ hw =>
      refine .schema hd.reads (hgenerator hd hrun (Along.steady.write hw)) fun _ => ?_
      obtain ⟨rfl, -⟩ := (hd.standard_ends hbuiltin hrun).written hfull
      obtain ⟨_, _, _, rfl⟩ := write_ok hw
      rw [written_settle]
      exact ⟨_, List.mem_append_right _ (List.mem_singleton_self _), rfl, rfl⟩

/-! ### Runs -/

/-- Every location that has a type got it as `Gets` says, at a moment in `H`, and none has failed. -/
structure Decided (H : Session → Prop) (s : Session) : Prop where
  builtin : s.generators = .standard
  unfailed : ∀ {l y}, s.record? l ≠ some (.failed y)
  gets : ∀ {l a}, s.record? l = some (.resolved a) → ∃ v x, H v ∧ Gets v s l x a

namespace Decided

theorem mono {H' : Session → Prop} (h : Decided H s) (hH : ∀ v, H v → H' v) : Decided H' s := by
  refine ⟨h.builtin, h.unfailed, fun hr => ?_⟩
  obtain ⟨v, x, hv, hgets⟩ := h.gets hr
  exact ⟨v, x, hH v hv, hgets⟩

theorem move (h : Decided H s) (hg : t.generators = s.generators) (hcarries : Carries s t)
    (hr : ∀ {m r}, t.record? m = some r → r ≠ .pending → s.record? m = some r) : Decided H t := by
  refine ⟨hg.trans h.builtin, fun hm => h.unfailed (hr hm (by simp)), fun hm => ?_⟩
  obtain ⟨v, x, hv, hgets⟩ := h.gets (hr hm (by simp))
  exact ⟨v, x, hv, hcarries.gets hgets⟩

/-- In a session that fails where a type is missing, every step keeps to the decisions. -/
theorem isKept : Kept H fun s => s.features.value Feature.ignoreMissingTypes = false ∧ Decided H s where
  quiet := by
    rintro s t ⟨hstrict, h⟩ hq
    refine ⟨by rwa [hq.features], h.move hq.generators (.of_along (Along.steady.quiet hq)) fun hr _ => ?_⟩
    exact (hq.record? _).symm.trans hr
  mark := by
    rintro s l ⟨hstrict, h⟩ hnew -
    have hb := s.marked_binds l
    have hsame : SameSetup s (s.marked l) := hb.sameSetup .pending
    have hcarries : Carries s (s.marked l) :=
      .change (l := l) (by simp [hnew]) (fun m hm => hb.record?_mark_of_ne hm) (hb.journal_mark _) (hb.written_mark _)
    exact ⟨by rwa [hsame.features], h.move hsame.generators hcarries fun hr hne => hb.record?_of_mark hr hne⟩
  write := by
    rintro n s l bound node generator a source text t r u ⟨hstrict, h⟩ - - - - - - hw
    have hkeeps := Keeps.write hw
    refine ⟨by rwa [hkeeps.features], h.move hkeeps.generators (.of_along (Along.steady.write hw)) fun hr _ => ?_⟩
    rw [write_frame hw] at hr
    exact hr
  settle := by
    rintro n s l bound isNew t a u ⟨-, hs⟩ hnew hb hH hp ⟨hstrict, h⟩ -
    have hsame : SameSetup u (u.settle l bound isNew a) := settle_sameSetup
    have hpending := hp.along.record record?_setRecord_self
    have hcarries : Carries u (u.settle l bound isNew a) :=
      .change (l := l) (by simp [hpending]) (fun m hm => record?_settle_of_ne hm) journal_settle written_settle
    have hgets : Gets (t.setRecord l .pending) (u.settle l bound isNew a) l bound a :=
      hp.gets rfl record?_setRecord_self hb.type?_self ((hb.sameSetup _).generators.trans hs.builtin) h.unfailed
    -- The location that is settled is the only one with a new record.
    refine ⟨by rwa [hsame.features], hsame.generators.trans h.builtin, fun hr => ?_, fun hr => ?_⟩
    · rcases record?_of_settle hr with ⟨-, heq⟩ | hr
      · cases heq
      · exact h.unfailed hr
    · rcases record?_of_settle hr with ⟨rfl, heq⟩ | hr
      · cases heq
        exact ⟨_, bound, hH, hgets⟩
      · obtain ⟨v, x, hv, hgets⟩ := h.gets hr
        exact ⟨v, x, hv, hcarries.gets hgets⟩
  assume := by
    rintro n s l bound isNew t e u - - - - ⟨hstrict, -⟩ hfeature
    cases hstrict.symm.trans hfeature
  forget := by
    rintro n s l bound isNew t e u - - - hp ⟨hstrict, h⟩ -
    have hpending := hp.along.record record?_setRecord_self
    have hcarries : Carries u (u.eraseRecord l) :=
      .change (l := l) (by simp [hpending]) (fun m hm => record?_eraseRecord_of_ne hm) rfl rfl
    refine ⟨hstrict, h.move rfl hcarries fun {m r} hr _ => ?_⟩
    have hml : m ≠ l := by
      rintro rfl
      cases record?_eraseRecord_self.symm.trans hr
    exact (record?_eraseRecord_of_ne hml).symm.trans hr
  reply := by
    rintro s l r ⟨hstrict, h⟩
    exact ⟨hstrict, h.move rfl ⟨id, List.suffix_cons _ _, fun _ he => he⟩ fun hr _ => hr⟩

end Decided

/-- Runs in which requests are made while missing types are errors. -/
def Strict : List Mapping → List Session → Session → Prop :=
  Runs fun s _ => s.features.value Feature.ignoreMissingTypes = false

theorem Strict.decided (h : Strict mappings path t) : Decided (· ∈ path) t := by
  induction h with
  | new catalog output files =>
    refine ⟨rfl, ?_, ?_⟩
    · intro l y hr
      cases hr
    · intro l a hr
      cases hr
  | addMapping mapping _ _ ih => exact ih.move rfl ⟨id, List.suffix_refl _, fun _ he => he⟩ fun hr _ => hr
  | adjust _ hadjusts ih =>
    obtain ⟨hframe, -⟩ := hadjusts.frame
    rw [hframe]
    exact ih.move rfl ⟨id, List.suffix_refl _, fun _ he => he⟩ fun hr _ => hr
  | @request mappings path s t n l r _ hrequest hstrict ih =>
    have hstart : Decided (· ∈ path ++ moments n l s) s := ih.mono fun v hv => List.mem_append_left _ hv
    exact (Decided.isKept.request hrequest (fun v hv => List.mem_append_right _ hv) ⟨hstrict, hstart⟩).1.2

theorem Runs.path_of_unasked {C : Session → Answer → Prop} (h : Runs C mappings path t) (hj : t.journal = []) :
    path = [] := by
  induction h with
  | new catalog output files => rfl
  | addMapping mapping _ _ ih => exact ih hj
  | adjust _ hadjusts ih =>
    rw [hadjusts.frame.1] at hj
    exact ih hj
  | request _ hrequest _ _ =>
    obtain ⟨_, u, _, _, rfl⟩ := generateWithin_responds hrequest
    cases hj

theorem Runs.accounted {C : Session → Answer → Prop} (h : Runs C mappings path t) : ∀ v ∈ path, Accounted mappings v := by
  induction h with
  | new catalog output files => simp
  | addMapping mapping h hj _ => simp [h.path_of_unasked hj]
  | adjust _ _ ih => exact ih
  | request h hrequest _ ih =>
    intro v hv
    rcases List.mem_append.mp hv with hv | hv
    · exact ih v hv
    · exact (Accounted.isKept.request hrequest (fun _ _ => trivial) h.arranged.accounted).2 v hv

/-- In every run with the built-in generators in which missing types are errors, whatever the default package is and
    whichever types are taken to exist: a location without a mapping that has got a type, or none, was bound to a type with
    the name of the location and a number when it became pending. It got that very type if there was one of that name
    already, and is left to its schema otherwise. A request that is answered makes its answer the type of its location, and
    is again part of such a run. -/
theorem schema_decides_unless_given (h : Strict mappings path t) :
    (∀ l a, (Mappings.ofList mappings).type? l = none → t.record? l = some (.resolved a) →
      ∃ v ∈ path, ∃ package k, Gets v t l (.plain package (candidate (typeName l) "" k)) a) ∧
    ∀ n l a u, t.features.value Feature.ignoreMissingTypes = false → generateWithin n l t = some (.ok a, u) →
      u.record? l = some (.resolved a) ∧ Strict mappings (path ++ moments n l t) u := by
  refine ⟨fun l a hl hr => ?_, fun n l a u hstrict hrequest => ?_⟩
  · obtain ⟨v, x, hv, hgets⟩ := h.decided.gets hr
    obtain ⟨package, k, rfl⟩ := (Runs.accounted h v hv).found hl hgets.bound
    exact ⟨v, hv, package, k, hgets⟩
  · have hnext : Strict mappings (path ++ moments n l t) u := Runs.request h hrequest hstrict
    rcases generateWithin_record hrequest with hr | hr | ⟨y, hr⟩
    · exact absurd hr (h.arranged.reachable.idle l)
    · exact ⟨hr, hnext⟩
    · exact absurd hr hnext.decided.unfailed

end Session

/-! ### Shelves -/

/-- A document with a list of texts, and books that are such a list. -/
def shelfDocument : Uri × Json :=
  (⟨"urn", "", none, none, none, .rootless "shelf", none, none⟩,
    .object [("definitions", .object
      [("list", .object [("type", .string "array"), ("items", .object [("type", .string "string")])]),
        ("books", .object [("$ref", .string "#/definitions/list")])])])

def onShelf (name : String) : Location := ⟨shelfDocument.1, "/definitions/" ++ name⟩

namespace Session

def shelf : Session := Session.new (.preloaded [shelfDocument]) (.memory .empty []) ⟨"/", []⟩

/-- Books are a list of texts, as the list they refer to is. -/
theorem schema_decides_unless_given_books : ∃ path t, Strict [] path t ∧
    t.record? (onShelf "books") = some (.resolved (some (.listOf .string))) ∧
    ∃ v ∈ path, ∃ package k, Gets v t (onShelf "books") (.plain package (candidate (typeName (onShelf "books")) "" k))
      (some (.listOf .string)) := by
  have hrun : (generateWithin 6 (onShelf "books") shelf).map (fun r => r.2.record? (onShelf "books")) =
      some (some (.resolved (some (.listOf .string)))) := by decide +kernel
  obtain ⟨⟨r, t⟩, hrequest, hrecord⟩ := Option.map_eq_some_iff.mp hrun
  have hstrict : Strict [] _ t := (Runs.new _ _ _).request hrequest rfl
  exact ⟨_, t, hstrict, hrecord, (schema_decides_unless_given hstrict).1 _ _ rfl hrecord⟩

/-- If the default package has a type called like the list, that type is taken for it: it is no list of texts, and
    nothing is written. -/
theorem list_named_like_existing_type : ∃ path t node, Strict [] path t ∧
    (onShelf "list").node? [shelfDocument] = some node ∧ Kind.of (onShelf "list") node = .ok (some "array") ∧
    t.record? (onShelf "list") = some (.resolved (some (.plain "java.util" "List"))) ∧
    (∀ y : JavaType, y.listOf ≠ .plain "java.util" "List") ∧ t.written = [] := by
  have hrun : ((shelf.setText "default-namespace" "java.util").toOption.bind (generateWithin 6 (onShelf "list"))).map
      (fun r => (r.2.record? (onShelf "list"), r.2.written)) =
        some (some (.resolved (some (.plain "java.util" "List"))), []) := by decide +kernel
  have hfeature : (shelf.setText "default-namespace" "java.util").toOption.map
      (fun s => s.features.value Feature.ignoreMissingTypes) = some false := by decide +kernel
  have hkind : ((onShelf "list").node? [shelfDocument]).map (Kind.of (onShelf "list")) = some (.ok (some "array")) := by
    decide +kernel
  obtain ⟨⟨r, t⟩, hbind, hpair⟩ := Option.map_eq_some_iff.mp hrun
  obtain ⟨s, hset, hrequest⟩ := Option.bind_eq_some_iff.mp hbind
  obtain ⟨hrecord, hwritten⟩ := Prod.mk.inj hpair
  obtain ⟨node, hnode, hk⟩ := Option.map_eq_some_iff.mp hkind
  cases hs : shelf.setText "default-namespace" "java.util" with
  | error e =>
    rw [hs] at hset
    cases hset
  | ok s' =>
    rw [hs] at hset hfeature
    cases hset
    have hstrict : Strict [] _ t := ((Runs.new _ _ _).adjust (.setText hs)).request hrequest (Option.some.inj hfeature)
    refine ⟨_, t, node, hstrict, hnode, hk, hrecord, fun y hy => ?_, hwritten⟩
    cases hy

end Session

end SchemaBeans
