import Mathlib.Data.List.Chain
import SchemaBeans.Proofs.Generation.Leftovers

/-! Null, and references to it.

A location that is null, or refers to one that is, is answered, but with no type; so is all that it refers to
(`Session.start_generate_none`). An object or an array cannot do without the type of a child. If there is nothing
else that keeps it from being generated, it fails for this child, whatever was asked for before
(`Session.Tracks.generate_untyped`). -/

namespace SchemaBeans

namespace Kind

/-- The schema names null as its kind, or lists kinds and no other than null. -/
def IsNull (schema : Json) : Prop :=
  schema.get? keyword = some (.string "null") ∨
    ∃ items, schema.get? keyword = some (.array items) ∧ ∀ kind, .string kind ∈ items → kind = "null"

theorem listed_eq_nil_iff {items : List Json} : listed items = [] ↔ ∀ kind, .string kind ∈ items → kind = "null" := by
  have hstring : ∀ (node : Json) (kind : String), node.string? = some kind ↔ node = .string kind := by
    intro node kind
    cases node <;> simp [Json.string?]
  simp [listed, List.filter_eq_nil_iff, List.mem_filterMap, hstring]

theorem of_eq_none_iff {l : Location} {schema : Json} : Kind.of l schema = .ok none ↔ IsNull schema := by
  unfold Kind.of IsNull
  split <;> rename_i hk
  · simp [hk]
  · simp [hk]
  · simp only [hk, reduceCtorEq, Option.some.injEq, Json.array.injEq, exists_eq_left', false_or, ← listed_eq_nil_iff]
    split <;> simp_all
  · simp only [hk, reduceCtorEq, Option.some.injEq, false_iff, not_or, not_exists, not_and]
    grind

end Kind

namespace Setup
variable {w : Setup} {f : Features} {O : Error → Prop} {l m target : Location} {cause : Error}

/-! ### Chains -/

/-- Each location refers to the next, and the last one is null. None of them is pinned to a type. -/
structure NullChain (w : Setup) (chain : List Location) : Prop where
  refers : chain.IsChain w.Refers
  null : ∃ l node, chain.getLast? = some l ∧ w.Schema l node ∧ Kind.IsNull node

theorem NullChain.untyped {chain : List Location} (h : w.NullChain chain) (hl : l ∈ chain) : w.Untyped l := by
  obtain ⟨hrefers, last, node, hlast, hs, hnull⟩ := h
  induction hrefers generalizing l with
  | nil => cases hl
  | singleton l' =>
    cases List.mem_singleton.mp hl
    cases hlast
    exact .null hs (Kind.of_eq_none_iff.mpr hnull)
  | cons_cons hr _ ih =>
    rw [List.getLast?_cons_cons] at hlast
    rcases List.mem_cons.mp hl with rfl | hl
    · exact .reference hr (ih List.mem_cons_self hlast)
    · exact ih hl hlast

theorem needs_of_isChain {rest : List Location} (h : (l :: rest).IsChain w.Refers) (hm : m ∈ l :: rest) :
    Relation.ReflTransGen w.Needs l m := by
  rcases List.mem_cons.mp hm with rfl | hm
  · exact .refl
  · have hneeds : (l :: rest).IsChain (Relation.ReflTransGen w.Needs) := h.imp fun _ _ hr => .single (Or.inl hr)
    exact hneeds.rel_cons hm

theorem Untyped.of_needs (h : w.Untyped l) (hm : w.Needs l m) : w.Untyped m := by
  rcases hm with hr | ⟨node, hs, ha⟩
  · exact h.of_refers hr
  · rcases ha.kind with hk | hk <;> cases (h.kind hs).symm.trans hk

theorem Untyped.needed (h : w.Untyped l) (hm : Relation.ReflTransGen w.Needs l m) : w.Untyped m := by
  induction hm with
  | refl => exact h
  | tail _ hm ih => exact ih.of_needs hm

theorem Untyped.typable (h : w.Untyped l) : w.Typable f l := by
  cases h with
  | null hs hk => exact .null hs hk
  | reference hr _ => exact .reference hr

/-- Nothing is generated for a location without a type, so nothing is refused. -/
theorem Untyped.not_obstacle (h : w.Untyped l) : ¬w.Obstacle f O l cause := by
  intro ho
  cases ho with
  | stuck hpinned hrefers hnull hschema =>
    cases h with
    | null hs hk => exact hnull _ hs hk
    | reference hr _ => exact hrefers _ hr
  | failed hs hk _ _ => cases (h.kind hs).symm.trans hk
  | refused he _ =>
    obtain ⟨node, hs, hk | ⟨hk, -⟩⟩ := he <;> cases (h.kind hs).symm.trans hk

/-! ### Children without a type -/

/-- All that keeps an object or an array from being generated is its child at a location: its generator would come to
    its end if this location had a type, and everything else that is needed can be answered. -/
structure OnlyProblem (w : Setup) (f : Features) (l target : Location) : Prop where
  child : ∃ node kind generator requested a source, w.Schema l node ∧ l.Asks node target ∧
    Kind.of l node = .ok (some kind) ∧ Generators.standard.get? kind = some generator ∧
    (generator ⟨l, requested, node, f⟩).Yields (fun m b => b = none ↔ w.Untyped m ∧ m ≠ target) a source
  others : ∀ m, Relation.ReflTransGen w.Needs l m → m ≠ l → w.Typable f m

namespace OnlyProblem

theorem not_typable (h : w.OnlyProblem f l target) (ht : w.Untyped target) : ¬w.Typable f l := by
  obtain ⟨node, kind, generator, requested, a, source, hs, hasks, hk, hg, -⟩ := h.child
  intro htypable
  cases htypable with
  | pinned hp => exact hs.unpinned _ hp
  | reference hr => exact hr.not_schema hs
  | null hs' hk' =>
    cases hs.unique hs'
    cases hk.symm.trans hk'
  | generated hs' hk' hg' hy =>
    cases hs.unique hs'
    obtain ⟨b, hb, htyped⟩ :=
      Generators.standard_asked hg' hk' ((Generator.standard_requires hg' _).yields hy) hasks
    exact htyped (hb.mpr ht)

/-- Whatever keeps the location from being answered has this child as its cause, or is a refusal. -/
theorem cause_eq (h : w.OnlyProblem f l target) (hm : Relation.ReflTransGen w.Needs l m) (ho : w.Obstacle f O m cause) :
    cause = .untyped target ∨ O cause := by
  by_cases hml : m = l
  · subst hml
    obtain ⟨node, kind, generator, requested, a, source, hs, hasks, hk, hg, hy⟩ := h.child
    cases ho with
    | stuck _ _ _ hschema => exact absurd hg (hschema _ _ _ hs hk)
    | failed hs' hk' hg' hfails =>
      cases hs.unique hs'
      cases hk.symm.trans hk'
      cases hg.symm.trans hg'
      obtain ⟨p, t, htyped, huntyped, rfl⟩ :=
        (Generator.standard_alike hg).untyped_of_fails (Generator.standard_requires hg _) hy hfails
      refine Or.inl ?_
      -- Every other child is answered with a type exactly if it has one.
      by_cases hp : p = target
      · rw [hp]
        rfl
      · cases htyped.mpr ⟨huntyped.mp rfl, hp⟩
    | refused _ hcause => exact Or.inr hcause
  · exact Or.inr ((h.others m hm hml).refused ho)

end OnlyProblem

end Setup

namespace Session
variable {w : Setup} {f : Features} {O : Error → Prop} {s t : Session} {l target : Location}

/-! ### Sessions -/

/-- The one session becomes the other by a request, however it is answered. -/
def Asked (s t : Session) : Prop := ∃ l r, s.generate l = some (r, t)

section Strict
variable (hstrict : f.value Feature.ignoreMissingTypes = false) (hfinds : f.FindsNew)
include hstrict hfinds

theorem start_generate_none (output : Output) (files : Files) (hl : w.Untyped l) :
    ∃ t, (w.start f output files).generate l = some (.ok none, t) ∧
      ∀ m, Relation.ReflTransGen w.Needs l m → t.record? m = some (.resolved none) := by
  have hidle : ∀ p, (w.start f output files).record? p ≠ some .pending := by simp [setup_record?]
  have hstart := Tracks.setup w f (fun _ => False) output files
  obtain ⟨⟨r, t⟩, hr⟩ := Option.isSome_iff_exists.mp (generate_isSome hstart.documents hstart.generators l)
  cases r with
  | error e =>
    obtain ⟨-, p, hp, hobstacle⟩ := generateWithin_obstacle hstrict hfinds (fun _ _ => trivial) hr
      (.idle hidle (Tracks.setup w f (fun _ => True) output files) trivial)
    exact absurd hobstacle (hl.needed hp).not_obstacle
  | ok a =>
    obtain ⟨ht, htype, hrecord⟩ := generateWithin_tracks hstrict hfinds hr (.idle hidle hstart trivial)
    cases htype.mpr hl
    refine ⟨t, hr, fun m hm => ?_⟩
    obtain ⟨a, ha⟩ := ht.resolved_of_needs (fun p hp => hidle p ((generateWithin_keeps hr).pending hp)) hrecord
      (fun _ _ he => ht.erased he) hm
    rw [ha, (ht.resolved ha).type.mpr (hl.needed hm)]

theorem Tracks.asked (hs : Tracks w f (fun _ => True) O s) (hidle : ∀ p, s.record? p ≠ some .pending) (h : Asked s t) :
    Tracks w f (fun _ => True) O t ∧ ∀ p, t.record? p ≠ some .pending := by
  obtain ⟨l, r, hr⟩ := h
  refine ⟨?_, fun p hp => hidle p ((generateWithin_keeps hr).pending hp)⟩
  cases r with
  | ok a => exact (generateWithin_tracks hstrict hfinds hr (.idle hidle hs trivial)).1
  | error e => exact (generateWithin_obstacle hstrict hfinds (fun _ _ => trivial) hr (.idle hidle hs trivial)).1

theorem start_asked {output : Output} {files : Files} (h : Relation.ReflTransGen Asked (w.start f output files) s) :
    Tracks w f (fun _ => True) output.Refuses s ∧ ∀ p, s.record? p ≠ some .pending := by
  induction h with
  | refl => exact ⟨Tracks.setup w f (fun _ => True) output files, by simp [setup_record?]⟩
  | tail _ hstep ih => exact ih.1.asked hstrict hfinds ih.2 hstep

theorem Tracks.generate_untyped (hs : Tracks w f (fun _ => True) O s) (hidle : ∀ p, s.record? p ≠ some .pending)
    (h : w.OnlyProblem f l target) (ht : w.Untyped target) :
    ∃ e t, s.generate l = some (.error e, t) ∧ (e.rootCause = .untyped target ∨ O e.rootCause) := by
  obtain ⟨⟨r, t⟩, hr⟩ := Option.isSome_iff_exists.mp (generate_isSome hs.documents hs.generators l)
  cases r with
  | ok a =>
    obtain ⟨htracks, -, hrecord⟩ := generateWithin_tracks hstrict hfinds hr (.idle hidle hs trivial)
    obtain ⟨b, hb⟩ := resolved_of_recorded (fun p hp => hidle p ((generateWithin_keeps hr).pending hp))
      (fun _ => htracks.unfailed) hrecord
    exact absurd (htracks.resolved hb).typable (h.not_typable ht)
  | error e =>
    obtain ⟨-, p, hp, hobstacle⟩ := generateWithin_obstacle hstrict hfinds (fun _ _ => trivial) hr (.idle hidle hs trivial)
    exact ⟨e, t, hr, h.cause_eq hp hobstacle⟩

end Strict

/-- Null has no type, and neither has what refers to it. In a new session any location of a chain that ends at a null
    is answered with no type, and this is recorded for it and for all that follow. An object or an array whose only
    problem is a child on the chain fails for want of its type, unless the output refuses a source: in a new session,
    and after any requests, be they for the chain or not. -/
theorem null_chain_unusable {chain : List Location} (hchain : w.NullChain chain) (output : Output) (files : Files) :
    (∀ l rest, l :: rest <:+ chain → ∃ t, (w.start .empty output files).generate l = some (.ok none, t) ∧
      ∀ m ∈ l :: rest, t.record? m = some (.resolved none)) ∧
    ∀ l, ∀ target ∈ chain, w.OnlyProblem .empty l target → ∀ s, Relation.ReflTransGen Asked (w.start .empty output files) s →
      ∃ e t, s.generate l = some (.error e, t) ∧ (e.rootCause = .untyped target ∨ output.Refuses e.rootCause) := by
  refine ⟨fun l rest hrest => ?_, fun l target htarget hproblem s hs => ?_⟩
  · obtain ⟨t, ht, hrecords⟩ := start_generate_none rfl Features.findsNew_empty output files
      (hchain.untyped (hrest.subset List.mem_cons_self))
    exact ⟨t, ht, fun m hm => hrecords m (Setup.needs_of_isChain (hchain.refers.suffix hrest) hm)⟩
  · obtain ⟨htracks, hidle⟩ := start_asked rfl Features.findsNew_empty hs
    exact htracks.generate_untyped rfl Features.findsNew_empty hidle hproblem (hchain.untyped htarget)

end Session

/-! ### A book without a shelf -/

namespace Setup

/-- A book has a title and is on a shelf. -/
def shelvedBook : Json :=
  .object [("type", .string "object"), ("properties", .object
    [("title", .object [("type", .string "string")]), ("shelf", .object [("$ref", .string "#/shelf")])])]

/-- A document with books, in which shelves have become null. -/
def libraryDocument : Uri × Json :=
  (⟨"urn", "", none, none, none, .rootless "library", none, none⟩,
    .object [("book", shelvedBook), ("shelf", .object [("$ref", .string "#/retired")]),
      ("retired", .object [("type", .array [.string "null"])])])

def shelfPart (name : String) : Location := ⟨libraryDocument.1, "/" ++ name⟩

def bookTitle : Location := ((shelfPart "book").child "properties").child "title"

def shelves : Setup := ⟨[libraryDocument], []⟩

theorem shelf_nullChain : shelves.NullChain [shelfPart "shelf", shelfPart "retired"] := by
  have hrefers : shelves.Refers (shelfPart "shelf") (shelfPart "retired") := ⟨fun _ hp => (by cases hp.1), _, rfl, rfl⟩
  refine ⟨.cons_cons hrefers (.singleton _), shelfPart "retired", _, rfl, ⟨fun _ hp => (by cases hp.1), rfl, rfl, rfl⟩, ?_⟩
  exact Or.inr ⟨[.string "null"], rfl, by simp⟩

theorem book_schema : shelves.Schema (shelfPart "book") shelvedBook := ⟨fun _ hp => (by cases hp.1), rfl, rfl, rfl⟩

theorem title_schema : shelves.Schema bookTitle (.object [("type", .string "string")]) :=
  ⟨fun _ hp => (by cases hp.1), rfl, rfl, rfl⟩

theorem book_needs {m : Location} (h : shelves.Needs (shelfPart "book") m) : m = bookTitle ∨ m = shelfPart "shelf" := by
  rcases h with hr | ⟨node, hs, ha⟩
  · exact absurd book_schema hr.not_schema
  · cases book_schema.unique hs
    cases ha with
    | items hk => exact absurd hk (by decide)
    | @property name child _ _ hmem ht =>
      change (name, child) ∈ [("title", _), ("shelf", _)] at hmem
      simp only [List.mem_cons, Prod.mk.injEq, List.not_mem_nil, or_false] at hmem
      rcases hmem with ⟨rfl, rfl⟩ | ⟨rfl, rfl⟩
      · cases ht
        exact Or.inl rfl
      · cases ht
        exact Or.inr rfl
    | additional _ hf => cases hf

theorem title_needs {m : Location} : ¬shelves.Needs bookTitle m := by
  rintro (hr | ⟨node, hs, ha⟩)
  · exact hr.not_schema title_schema
  · cases title_schema.unique hs
    exact absurd ha.kind (by decide)

theorem book_onlyProblem : shelves.OnlyProblem .empty (shelfPart "book") (shelfPart "shelf") := by
  have hshelf : shelves.Untyped (shelfPart "shelf") := shelf_nullChain.untyped List.mem_cons_self
  have htitle : some JavaType.string = none ↔ shelves.Untyped bookTitle ∧ bookTitle ≠ shelfPart "shelf" :=
    ⟨nofun, fun h => (by cases h.1.kind title_schema)⟩
  have hgiven : some JavaType.string = none ↔
      shelves.Untyped (shelfPart "shelf") ∧ shelfPart "shelf" ≠ shelfPart "shelf" := by simp
  have hyields : (Generator.object ⟨shelfPart "book", .plain "" "Book", shelvedBook, .empty⟩).Yields
      (fun m b => b = none ↔ shelves.Untyped m ∧ m ≠ shelfPart "shelf") (some (.plain "" "Book")) _ :=
    .request htitle (.request hgiven .done)
  refine ⟨⟨_, "object", _, _, _, _, book_schema, ?_, rfl, rfl, hyields⟩, fun m hm hne => ?_⟩
  · exact .property rfl (List.mem_cons_of_mem _ List.mem_cons_self) rfl
  · rcases Relation.ReflTransGen.cases_head hm with rfl | ⟨p, hp, hpm⟩
    · exact absurd rfl hne
    · rcases book_needs hp with rfl | rfl
      · rcases Relation.ReflTransGen.cases_head hpm with rfl | ⟨q, hq, -⟩
        · exact .generated title_schema rfl rfl (.done : (Generator.string ⟨bookTitle, .string, _, .empty⟩).Yields _ _ _)
        · exact absurd hq title_needs
      · exact (hshelf.needed hpm).typable

end Setup

namespace Session

open Setup (shelves shelfPart)

theorem null_chain_unusable_shelf : shelves.NullChain [shelfPart "shelf", shelfPart "retired"] ∧
    shelves.OnlyProblem .empty (shelfPart "book") (shelfPart "shelf") ∧
    ∃ t e u, (shelves.start .empty (.memory .empty []) ⟨"/", []⟩).generate (shelfPart "shelf") = some (.ok none, t) ∧
      t.record? (shelfPart "retired") = some (.resolved none) ∧
      t.generate (shelfPart "book") = some (.error e, u) ∧ e.rootCause = .untyped (shelfPart "shelf") := by
  obtain ⟨hanswered, hfails⟩ := null_chain_unusable Setup.shelf_nullChain (.memory .empty []) ⟨"/", []⟩
  obtain ⟨t, ht, hrecords⟩ := hanswered (shelfPart "shelf") [shelfPart "retired"] (List.suffix_refl _)
  obtain ⟨e, u, hu, hcause⟩ := hfails (shelfPart "book") (shelfPart "shelf") List.mem_cons_self Setup.book_onlyProblem t
    (.single ⟨_, _, ht⟩)
  exact ⟨Setup.shelf_nullChain, Setup.book_onlyProblem, t, e, u, ht, hrecords _ (by simp), hu,
    hcause.resolve_right Output.not_refuses_memory⟩

end Session

end SchemaBeans
