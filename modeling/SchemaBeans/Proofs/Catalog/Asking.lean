import Mathlib.Data.List.Forall2
import SchemaBeans.Proofs.Json.Children

/-! How often a catalog is asked for a document.

A document that was found is kept, so the catalog is not asked for it again, and whoever looks up a location in it
later sees the same document, also if the catalog has changed meanwhile. That a catalog has no document, or fails, is
not kept: it is asked again with every lookup until it has one. -/

namespace SchemaBeans

/-- A location that is looked up, with the catalog and the files as they are by then. -/
structure Inquiry where
  catalog : Catalog
  files : Files
  location : Location

/-- The document that the catalog has for the location, if it is asked. -/
def Inquiry.document? (q : Inquiry) : Option Json :=
  match (q.catalog.load q.files q.location.root).result with
  | .ok document => document
  | .error _ => none

namespace Documents

/-- The nodes found by lookups made one after the other, and the documents after them. -/
def inquire (documents : Documents) : List Inquiry → List (Except Error Json) × Documents
  | [] => ([], documents)
  | q :: rest =>
    let (answer, documents, _) := documents.resolve q.catalog q.files q.location
    let (answers, documents) := documents.inquire rest
    (answer :: answers, documents)

/-! ### One lookup -/

/-- The document of a location was found before, or the catalog is asked for it, has it or does not have it. -/
theorem document_cases (documents : Documents) (q : Inquiry) :
    (∃ document, documents.found.get? q.location.root = some document ∧
      documents.document q.catalog q.files q.location = (.ok document, documents, [])) ∨
    documents.found.get? q.location.root = none ∧
      ((∃ document log, q.document? = some document ∧ documents.document q.catalog q.files q.location =
          (.ok document, ⟨documents.found.put q.location.root document, documents.asked ++ [q.location.root]⟩, log)) ∨
        ∃ e log, q.document? = none ∧ documents.document q.catalog q.files q.location =
          (.error e, ⟨documents.found, documents.asked ++ [q.location.root]⟩, log)) := by
  unfold Inquiry.document? Documents.document
  cases hfound : documents.found.get? q.location.root with
  | some document => exact Or.inl ⟨document, rfl, rfl⟩
  | none =>
    refine Or.inr ⟨rfl, ?_⟩
    rcases hload : q.catalog.load q.files q.location.root with ⟨_ | _ | document, log⟩
    · exact Or.inr ⟨_, log, rfl, rfl⟩
    · exact Or.inr ⟨_, log, rfl, rfl⟩
    · exact Or.inl ⟨document, log, rfl, rfl⟩

/-- How a lookup goes. -/
inductive Looks (documents : Documents) (q : Inquiry) : Except Error Json → Documents → Prop
  /-- The document was found before. -/
  | kept {document : Json} {answer : Except Error Json} : documents.found.get? q.location.root = some document →
      (∀ node, answer = .ok node → document.pointer? q.location.pointer = some node) → Looks documents q answer documents
  /-- The catalog is asked for the document and has it. -/
  | loaded {document : Json} {answer : Except Error Json} : documents.found.get? q.location.root = none →
      q.document? = some document → (∀ node, answer = .ok node → document.pointer? q.location.pointer = some node) →
      Looks documents q answer
        ⟨documents.found.put q.location.root document, documents.asked ++ [q.location.root]⟩
  /-- The catalog is asked for the document in vain. -/
  | missed {e : Error} : documents.found.get? q.location.root = none → q.document? = none →
      Looks documents q (.error e) ⟨documents.found, documents.asked ++ [q.location.root]⟩

theorem resolve_looks {documents later : Documents} {q : Inquiry} {answer : Except Error Json} {log : List LogEntry}
    (h : documents.resolve q.catalog q.files q.location = (answer, later, log)) : Looks documents q answer later := by
  -- What is found in a document that is there is the node at the pointer.
  have hnode : ∀ {document found log'}, documents.document q.catalog q.files q.location = (.ok document, found, log') →
      later = found ∧ ∀ node, answer = .ok node → document.pointer? q.location.pointer = some node := by
    intro document found log' hdocument
    simp only [resolve, hdocument] at h
    split at h <;> cases h
    · exact ⟨rfl, fun node hok => by cases hok; assumption⟩
    · exact ⟨rfl, fun node hok => by cases hok⟩
  rcases document_cases documents q with ⟨document, hfound, hdocument⟩ |
    ⟨hnone, ⟨document, log', hq, hdocument⟩ | ⟨e, log', hq, hdocument⟩⟩
  · obtain ⟨rfl, hanswer⟩ := hnode hdocument
    exact .kept hfound hanswer
  · obtain ⟨rfl, hanswer⟩ := hnode hdocument
    exact .loaded hnone hq hanswer
  · simp only [resolve, hdocument] at h
    cases h
    exact .missed hnone hq

/-! ### Lookups one after the other -/

/-- The lookups in the document of a URI. -/
def lookupsIn (uri : Uri) (inquiries : List Inquiry) : List Inquiry :=
  inquiries.filter (·.location.root = uri)

theorem lookupsIn_cons_self (q : Inquiry) (rest : List Inquiry) :
    lookupsIn q.location.root (q :: rest) = q :: lookupsIn q.location.root rest :=
  List.filter_cons_of_pos (decide_eq_true rfl)

theorem lookupsIn_cons_of_ne {uri : Uri} {q : Inquiry} (h : q.location.root ≠ uri) (rest : List Inquiry) :
    lookupsIn uri (q :: rest) = lookupsIn uri rest :=
  List.filter_cons_of_neg (by simpa using h)

theorem inquire_cons {documents later : Documents} {q : Inquiry} {answer : Except Error Json} {log : List LogEntry}
    (h : documents.resolve q.catalog q.files q.location = (answer, later, log)) (rest : List Inquiry) :
    documents.inquire (q :: rest) = (answer :: (later.inquire rest).1, (later.inquire rest).2) := by
  simp only [inquire, h]

/-- How often the catalog is asked for a document by given lookups in it: until it has the document. -/
def asks (own : List Inquiry) : Nat :=
  min own.length ((own.takeWhile (·.document?.isNone)).length + 1)

theorem asks_cons_of_some {q : Inquiry} {document : Json} (h : q.document? = some document) (rest : List Inquiry) :
    asks (q :: rest) = 1 := by
  simp [asks, h]

theorem asks_cons_of_none {q : Inquiry} (h : q.document? = none) (rest : List Inquiry) :
    asks (q :: rest) = asks rest + 1 := by
  simp [asks, h]

theorem asks_le_one_iff (own : List Inquiry) :
    asks own ≤ 1 ↔ ∀ first again rest, own = first :: again :: rest → first.document?.isSome := by
  rcases own with _ | ⟨q, _ | ⟨again, rest⟩⟩
  · simp [asks]
  · simp [asks]
  · cases hq : q.document? with
    | some document => simp [asks_cons_of_some hq, hq]
    | none =>
      have hagain : 1 ≤ asks (again :: rest) := Nat.le_min.mpr ⟨Nat.succ_pos _, Nat.succ_pos _⟩
      simp only [asks_cons_of_none hq]
      refine ⟨fun h => by omega, fun h => ?_⟩
      have hsome := h q again rest rfl
      simp [hq] at hsome

/-- A document that was found is kept, and so is the first one that the catalog has where none was found before. -/
theorem get?_inquire (documents : Documents) (inquiries : List Inquiry) (uri : Uri) :
    (documents.inquire inquiries).2.found.get? uri =
      (documents.found.get? uri).or ((lookupsIn uri inquiries).findSome? Inquiry.document?) := by
  induction inquiries generalizing documents with
  | nil => exact Option.or_none.symm
  | cons q rest ih =>
    rcases hresolve : documents.resolve q.catalog q.files q.location with ⟨answer, later, log⟩
    rw [inquire_cons hresolve, ih]
    by_cases hroot : q.location.root = uri
    · subst hroot
      rw [lookupsIn_cons_self, List.findSome?_cons]
      cases resolve_looks hresolve with
      | kept hfound _ => simp [hfound]
      | loaded hnone hq _ => simp [hnone, hq]
      | missed hnone hq => simp [hnone, hq]
    · rw [lookupsIn_cons_of_ne hroot]
      cases resolve_looks hresolve with
      | kept _ _ => rfl
      | loaded _ _ _ => rw [Table.get?_put_of_ne _ _ (Ne.symm hroot)]
      | missed _ _ => rfl

/-- A document is asked for by each lookup in it up to the first for which the catalog has it. -/
theorem asked_inquire (documents : Documents) (inquiries : List Inquiry) (uri : Uri) :
    (documents.inquire inquiries).2.asked.count uri = documents.asked.count uri +
      if (documents.found.get? uri).isSome then 0 else asks (lookupsIn uri inquiries) := by
  induction inquiries generalizing documents with
  | nil => simp [inquire, lookupsIn, asks]
  | cons q rest ih =>
    rcases hresolve : documents.resolve q.catalog q.files q.location with ⟨answer, later, log⟩
    rw [inquire_cons hresolve, ih]
    by_cases hroot : q.location.root = uri
    · subst hroot
      rw [lookupsIn_cons_self]
      cases resolve_looks hresolve with
      | kept hfound _ => simp [hfound]
      | loaded hnone hq _ => simp [hnone, asks_cons_of_some hq]
      | missed hnone hq => simp [hnone, asks_cons_of_none hq, Nat.add_assoc, Nat.add_comm 1]
    · rw [lookupsIn_cons_of_ne hroot]
      cases resolve_looks hresolve with
      | kept _ _ => rfl
      | loaded _ _ _ => simp [Table.get?_put_of_ne _ _ (Ne.symm hroot), hroot]
      | missed _ _ => simp [hroot]

theorem answers_inquire (documents : Documents) (inquiries : List Inquiry) :
    List.Forall₂ (fun q answer => ∀ node, answer = .ok node → ∃ document,
      (documents.inquire inquiries).2.found.get? q.location.root = some document ∧
        document.pointer? q.location.pointer = some node) inquiries (documents.inquire inquiries).1 := by
  induction inquiries generalizing documents with
  | nil => exact .nil
  | cons q rest ih =>
    rcases hresolve : documents.resolve q.catalog q.files q.location with ⟨answer, later, log⟩
    rw [inquire_cons hresolve]
    refine .cons (fun node hnode => ?_) (ih later)
    have hlooks := resolve_looks hresolve
    rw [get?_inquire]
    cases hlooks with
    | kept hfound hanswer => exact ⟨_, by rw [hfound]; rfl, hanswer node hnode⟩
    | loaded _ _ hanswer => exact ⟨_, by rw [Table.get?_put_self]; rfl, hanswer node hnode⟩
    | missed _ _ => cases hnode

/-- However catalogs answer, from one lookup to the next: a document is asked for by each lookup in it, missing
    pointers included, up to the first for which the catalog has the document, and never again. So it is asked for at
    most once exactly if there is only one lookup in it or the first of them finds the document. In any case all
    lookups in it that find a node see one document, the first that the catalog had. -/
theorem asked_once_iff (inquiries : List Inquiry) (uri : Uri) :
    let own := lookupsIn uri inquiries
    let run := empty.inquire inquiries
    run.2.asked.count uri = min own.length ((own.takeWhile (·.document?.isNone)).length + 1) ∧
    (run.2.asked.count uri ≤ 1 ↔ ∀ first again rest, own = first :: again :: rest → first.document?.isSome) ∧
    List.Forall₂ (fun q answer => q.location.root = uri → ∀ node, answer = .ok node →
      ∃ document, own.findSome? Inquiry.document? = some document ∧ document.pointer? q.location.pointer = some node)
      inquiries run.1 := by
  intro own run
  have hcount : run.2.asked.count uri = asks own := (asked_inquire empty inquiries uri).trans (Nat.zero_add _)
  refine ⟨hcount, ?_, (answers_inquire empty inquiries).imp ?_⟩
  · rw [hcount]
    exact asks_le_one_iff own
  · rintro q answer hanswer rfl node hnode
    obtain ⟨document, hfound, hpointer⟩ := hanswer node hnode
    rw [get?_inquire] at hfound
    exact ⟨document, hfound, hpointer⟩

/-- A document that the catalog does not have is asked for twice if it is looked up twice. -/
theorem missing_document_asked_again :
    let missing : Inquiry := ⟨.preloaded [labelled], ⟨"/", []⟩, ⟨{ labelled.1 with scheme := "tag" }, ""⟩⟩
    (empty.inquire [missing, missing]).2.asked = [missing.location.root, missing.location.root] := by
  decide +kernel

end Documents

end SchemaBeans
