import SchemaBeans.Proofs.Generation.Waiting

/-! Errors trace a path of dependencies.

A request fails because its location cannot be generated of itself, or because one fails that it depends on
directly. In the first case the error names the location alone, in the second it wraps the error of the other
request. The locations that an error tells of were all pending when the innermost of them failed, so they
differ, and each is forgotten on the way out (`Session.error_traces_dependencies`). A pending location that is
asked for never fails: what it waits for is pending too (`Session.Linked`). -/

namespace SchemaBeans

open Java (Source)

/-! ### Errors -/

namespace Error

theorem trail_rootCause (e : Error) : e.rootCause.trail = [] := by
  induction e with
  | generation l cause ih => exact ih
  | _ => rfl

/-- An error is its root cause, wrapped once for each location of its trail. -/
theorem eq_foldr_trail (e : Error) : e = e.trail.foldr .generation e.rootCause := by
  induction e with
  | generation l cause ih =>
    rw [trail, List.foldr_cons, rootCause]
    exact congrArg (Error.generation l) ih
  | _ => rfl

end Error

namespace Catalog

/-- The errors of the catalog are its own: none of them tells of a generation that failed. -/
def OwnErrors (catalog : Catalog) : Prop :=
  ∀ {files : Files} {uri : Uri} {e : Error}, (catalog.load files uri).result = .error e → e.trail = []

theorem OwnErrors.empty : Catalog.empty.OwnErrors := nofun

theorem OwnErrors.preloaded (documents : Table Uri Json) : (Catalog.preloaded documents).OwnErrors := by
  intro files uri e h
  rw [Catalog.preloaded] at h
  dsimp only at h
  split at h <;> cases h

theorem OwnErrors.directory (root : Uri) (path : String) : (Catalog.directory root path).OwnErrors := by
  intro files uri e h
  rw [Catalog.directory] at h
  dsimp only at h
  split at h
  · unfold lookUpFile at h
    split at h
    · cases h
    · cases h
      rfl
    · dsimp only at h
      split at h <;> cases h
      rfl
  · cases h

theorem OwnErrors.orElse {first second : Catalog} (hfirst : first.OwnErrors) (hsecond : second.OwnErrors) :
    (first.orElse second).OwnErrors := by
  intro files uri e h
  rw [Catalog.orElse] at h
  dsimp only at h
  split at h
  · exact hsecond h
  · exact hfirst h

theorem OwnErrors.chain {catalogs : List Catalog} (h : ∀ catalog ∈ catalogs, catalog.OwnErrors) :
    (Catalog.chain catalogs).OwnErrors := by
  induction catalogs with
  | nil => exact OwnErrors.empty
  | cons first rest ih =>
    exact OwnErrors.orElse (h first List.mem_cons_self) (ih fun catalog hmem => h catalog (List.mem_cons_of_mem first hmem))

end Catalog

theorem OutputDirectory.trail_of_write {directory : OutputDirectory} {files : Files} {x : JavaType} {text : String}
    {e : Error} (h : (directory.write files x text).1 = .error e) : e.trail = [] := by
  unfold OutputDirectory.write at h
  dsimp only at h
  split at h
  · rename_i cause hmade
    cases h
    repeat' split at hmade
    all_goals cases hmade
    rfl
  · split at h <;> cases h
    rfl

theorem Output.trail_of_write {output : Output} {files : Files} {x : JavaType} {text : String} {e : Error}
    (h : (output.write files x text).1 = .error e) : e.trail = [] := by
  unfold Output.write at h
  split at h
  · split at h <;> cases h
    rfl
  · rename_i target
    generalize hresult : target.write files x text = result at h
    exact OutputDirectory.trail_of_write ((congrArg Prod.fst hresult).trans h)

namespace Session
variable {s t u v : Session} {l m : Location} {node : Json} {bound : JavaType} {isNew : Bool}

/-! ### Dependencies -/

/-- The type of the one location is made from that of the other: it refers there, or finds there the schema of one
    of its properties, of its additional properties or of its items. -/
def Depends (s : Session) (l m : Location) : Prop :=
  ∃ node, l.node? s.documents.found = some node ∧ (Reference.target? l node = .ok (some m) ∨
    Reference.target? l node = .ok none ∧ l.Asks node m)

theorem Loads.node? (h : Loads s t) (hn : l.node? s.documents.found = some node) :
    l.node? t.documents.found = some node := by
  obtain ⟨document, hd, hp⟩ := Option.bind_eq_some_iff.mp hn
  exact Option.bind_eq_some_iff.mpr ⟨document, h.kept hd, hp⟩

theorem Depends.loads (h : s.Depends l m) (hl : Loads s t) : t.Depends l m := by
  obtain ⟨node, hn, hcase⟩ := h
  exact ⟨node, hl.node? hn, hcase⟩

theorem node?_of_resolve (h : (s.resolve l).1 = .ok node) : l.node? (s.resolve l).2.documents.found = some node := by
  obtain ⟨document, hdocument, hp⟩ := Documents.document_of_resolve
    (show s.documents.resolve s.catalog s.files l = (.ok node, (s.resolve l).2.documents, _) from Prod.ext h rfl)
  exact Option.bind_eq_some_iff.mpr ⟨document, Documents.found_of_document hdocument, hp⟩

theorem node?_of_opened (h : (s.resolve l).1 = .ok node) : l.node? (s.opened l node).documents.found = some node := by
  unfold opened
  split <;> exact node?_of_resolve h

theorem hop_of_found (h : l.node? s.documents.found = some node) : (s.hop l).1 = hopFrom l node := by
  obtain ⟨document, hd, hp⟩ := Option.bind_eq_some_iff.mp h
  simp [hop, Session.resolve, Documents.resolve_of_found hd hp]

/-! ### Pending locations -/

/-- Where a hop leads. -/
def Hop.target : Hop → Location
  | .reference target => target
  | .items target => target

/-- A pending location leads nowhere else, or to what it depends on and waits for. -/
theorem Depends.hop (h : s.Depends l m) :
    ∃ node, l.node? s.documents.found = some node ∧
      (hopFrom l node = .ok none ∨ ∃ hop, hopFrom l node = .ok (some hop) ∧ hop.target = m) := by
  obtain ⟨node, hn, ht | ⟨hplain, hasks⟩⟩ := h
  · exact ⟨node, hn, Or.inr ⟨.reference m, by rw [hopFrom, ht], rfl⟩⟩
  · refine ⟨node, hn, ?_⟩
    rw [hopFrom, hplain]
    cases hasks with
    | items hk hi ht => exact Or.inr ⟨.items m, by simp [Kind.isArray_iff.mpr hk, hi, ht, Except.map], rfl⟩
    | property hk _ _ => exact Or.inl (by simp [Kind.isArray_of_object hk])
    | additional hk _ _ => exact Or.inl (by simp [Kind.isArray_of_object hk])

/-- The pending locations when a location is asked for: each of them was read, and what it leads to is pending or is
    the location that is asked for. -/
def Linked (s : Session) (l : Location) : Prop :=
  ∀ {p}, s.record? p = some .pending → ∃ node, p.node? s.documents.found = some node ∧
    (hopFrom p node = .ok none ∨
      ∃ hop, hopFrom p node = .ok (some hop) ∧ (s.record? hop.target = some .pending ∨ hop.target = l))

namespace Linked

theorem idle (h : ∀ p, s.record? p ≠ some .pending) : Linked s l := fun hp => absurd hp (h _)

theorem keep (h : Linked s l) (hk : Keeps s t) : Linked t l := by
  intro p hp
  obtain ⟨node, hn, hcase⟩ := h (hk.pending hp)
  refine ⟨node, hk.loads.node? hn, hcase.imp_right ?_⟩
  rintro ⟨hop, hhop, hpending | hasked⟩
  · exact ⟨hop, hhop, Or.inl (hk.record hpending)⟩
  · exact ⟨hop, hhop, Or.inr hasked⟩

theorem mark (h : Linked s l) (hb : Binds s l bound isNew t) (hk : Keeps (t.setRecord l .pending) u)
    (hdep : u.Depends l m) : Linked u m := by
  intro p hp
  by_cases hpl : p = l
  · subst hpl
    obtain ⟨node, hn, hcase⟩ := hdep.hop
    exact ⟨node, hn, hcase.imp_right fun ⟨hop, hhop, htarget⟩ => ⟨hop, hhop, Or.inr htarget⟩⟩
  · have hs := (hb.record?_mark_of_ne hpl).symm.trans (hk.pending hp)
    have hloads : Loads s u := (hb.sameSetup .pending).loads.trans hk.loads
    obtain ⟨node, hn, hcase⟩ := h hs
    refine ⟨node, hloads.node? hn, hcase.imp_right ?_⟩
    rintro ⟨hop, hhop, htarget⟩
    refine ⟨hop, hhop, Or.inl (hk.record ?_)⟩
    by_cases htl : hop.target = l
    · exact htl ▸ record?_setRecord_self
    · exact (hb.record?_mark_of_ne htl).trans (htarget.resolve_right htl)

end Linked

theorem Follows.linked {seen : List Location} {lists : Nat} {c : Location} {r : Except Error Walk}
    (h : Follows seen lists c s r t) (hlinked : Linked s l) (hl : s.record? l = some .pending)
    (hc : s.record? c = some .pending) :
    r = .ok .cycle ∨ ∃ target n, r = .ok (.stop target n) ∧ s.record? target = some .pending := by
  -- The next location is pending, or it is the one that is asked for, which is pending too.
  have hstep : ∀ {s : Session} {c}, Linked s l → s.record? l = some .pending → s.record? c = some .pending →
      (s.hop c).1 = .ok none ∨ ∃ hop, (s.hop c).1 = .ok (some hop) ∧ s.record? hop.target = some .pending := by
    intro s c hlinked hl hc
    obtain ⟨node, hn, hcase⟩ := hlinked hc
    rw [hop_of_found hn]
    refine hcase.imp_right ?_
    rintro ⟨hop, hhop, hpending | rfl⟩
    · exact ⟨hop, hhop, hpending⟩
    · exact ⟨hop, hhop, hl⟩
  induction h with
  | free hp =>
    rw [isPending_iff.mpr hc] at hp
    cases hp
  | cycle _ _ => exact Or.inl rfl
  | lost _ _ he =>
    rcases hstep hlinked hl hc with hh | ⟨_, hh, -⟩ <;> rw [he] at hh <;> cases hh
  | own _ _ _ => exact Or.inr ⟨_, _, rfl, hc⟩
  | reference _ _ htarget _ ih | items _ _ htarget _ ih =>
    rcases hstep hlinked hl hc with hh | ⟨hop, hh, hpending⟩ <;> rw [htarget] at hh <;> cases hh
    have hq := hop_quiet htarget
    simp only [hq.record?] at ih
    exact ih (hlinked.keep (.of_quiet hq)) hl hpending

/-- A pending location that is asked for is answered, and nothing else is asked for. -/
theorem Stands.linked {ask : Location → Session → Outcome (Option JavaType)} {r : Answer} (h : Stands ask l s r t)
    (hlinked : Linked s l) (hl : s.record? l = some .pending) : ∃ b, r = .ok b := by
  have hend : ∀ {r v}, walk (s.records.length + 1) [] 0 l s = (r, v) →
      r = .ok .cycle ∨ ∃ target n, r = .ok (.stop target n) ∧ s.record? target = some .pending := fun hw =>
    (walk_follows List.nodup_nil (by simp) (by simp) hw).linked hlinked hl hl
  cases h with
  | lost hw => rcases hend hw with hr | ⟨_, _, hr, -⟩ <;> cases hr
  | own _ _ => exact ⟨_, rfl⟩
  | pending _ _ _ => exact ⟨_, rfl⟩
  | failed hw _ hp _ =>
    rcases hend hw with hr | ⟨_, _, hr, hpending⟩ <;> cases hr
    rw [(walk_quiet hw).isPending, isPending_iff.mpr hpending] at hp
    cases hp
  | asked _ _ _ _ => exact ⟨_, rfl⟩

/-! ### Trails -/

/-- The error of a request for a location: its trail starts with the location and goes on along dependencies, and no
    location on it had a record before or has one afterwards. -/
structure Traces (s : Session) (l : Location) (e : Error) (t : Session) : Prop where
  head : e.trail.head? = some l
  nodup : e.trail.Nodup
  new : ∀ m ∈ e.trail, s.record? m = none
  forgotten : ∀ m ∈ e.trail, t.record? m = none
  depends : e.trail.IsChain t.Depends

namespace Traces
variable {e : Error}

theorem own (hnew : s.record? l = none) (he : e.trail = []) : Traces s l (.generation l e) (u.eraseRecord l) := by
  have htrail : (Error.generation l e).trail = [l] := by rw [Error.trail, he]
  refine ⟨?_, ?_, ?_, ?_, ?_⟩ <;> rw [htrail]
  · rfl
  · exact List.nodup_singleton l
  · simpa using hnew
  · simp
  · exact .singleton l

/-- The location fails because one fails that it depends on. -/
theorem cons (hnew : s.record? l = none) (hb : Binds s l bound isNew t) (hk : Keeps (t.setRecord l .pending) v)
    (hdep : v.Depends l m) (hkeep : Keeps v u) (h : Traces v m e u) : Traces s l (.generation l e) (u.eraseRecord l) := by
  have hl : v.record? l = some .pending := hk.record record?_setRecord_self
  -- The location is pending when the others are asked for, so it is none of these.
  have hne : ∀ p ∈ e.trail, p ≠ l := by
    rintro p hp rfl
    rw [h.new p hp] at hl
    cases hl
  have hold : ∀ p ∈ e.trail, s.record? p = none := by
    intro p hp
    rw [← hb.record?_mark_of_ne (hne p hp)]
    cases hr : (t.setRecord l .pending).record? p with
    | none => rfl
    | some r =>
      have hnone := h.new p hp
      rw [hk.record hr] at hnone
      cases hnone
  refine ⟨rfl, List.nodup_cons.mpr ⟨fun hmem => hne l hmem rfl, h.nodup⟩, ?_, ?_, ?_⟩
  · exact List.forall_mem_cons.mpr ⟨hnew, hold⟩
  · refine List.forall_mem_cons.mpr ⟨record?_eraseRecord_self, fun p hp => ?_⟩
    rw [record?_eraseRecord_of_ne (hne p hp)]
    exact h.forgotten p hp
  · obtain ⟨rest, hrest⟩ := List.head?_eq_some_iff.mp h.head
    have hchain := h.depends
    rw [hrest] at hchain
    rw [Error.trail, hrest]
    exact .cons_cons (hdep.loads (hkeep.loads.trans (.same rfl rfl))) hchain

end Traces

theorem run_error {ask : Location → Session → Outcome (Option JavaType)} (hkeep : ∀ {m u r v}, ask m u = some (r, v) → Keeps u v)
    {P : Location → Prop} {Q : Option JavaType → Source → Prop} {plan : Plan} (hfits : plan.Fits P Q) (hreq : plan.Requires)
    {e : Error} (h : plan.run ask s = some (.error e, t)) :
    e.trail = [] ∨ ∃ m v, P m ∧ Keeps s v ∧ ask m v = some (.error e, t) := by
  induction plan generalizing s with
  | done type source => cases h
  | fail e =>
    cases h
    exact Or.inl hreq
  | note entry next ih =>
    refine (ih hfits hreq h).imp_right ?_
    rintro ⟨m, v, hm, hk, ha⟩
    exact ⟨m, v, hm, (Keeps.of_quiet (Quiet.note s entry)).trans hk, ha⟩
  | request l next ih =>
    obtain ⟨hl, hfail, hnext⟩ := hfits
    unfold Plan.run at h
    split at h
    · cases h
    · rename_i answer u ha
      rcases answer with e' | _ | x
      -- An error of a request is passed on as it is; a missing type is an error of the plan itself.
      · rw [hfail e'] at h
        cases h
        exact Or.inr ⟨l, s, hl, .refl s, ha⟩
      · rw [hreq.1] at h
        cases h
        exact Or.inl rfl
      · refine (ih _ (hnext _) (hreq.2 x) h).imp_right ?_
        rintro ⟨m, v, hm, hk, ha'⟩
        exact ⟨m, v, hm, (hkeep ha).trans hk, ha'⟩

theorem trail_of_write {x : JavaType} {text : String} {e : Error} (h : s.write l x text = (.error e, t)) : e.trail = [] := by
  unfold Session.write at h
  dsimp only at h
  split at h
  · cases h
  · rename_i hwrite
    cases h
    exact Output.trail_of_write (congrArg Prod.fst hwrite)

/-- Every failed request leaves a trail. -/
theorem generateWithin_traces {fuel : Nat} {e : Error} (hcatalog : s.catalog.OwnErrors) (hgen : s.generators = .standard)
    (hlinked : Linked s l) (h : generateWithin fuel l s = some (.error e, t)) : Traces s l e t := by
  induction fuel generalizing l s e t with
  | zero => cases h
  | succ n ih =>
    obtain ⟨_, u, hn, hr, rfl⟩ := generateWithin_responds h
    cases hn
    suffices hu : Traces s l e u from ⟨hu.head, hu.nodup, hu.new, hu.forgotten, hu.depends⟩
    cases hr with
    | pending hp hq hst =>
      have hanswered := hst.linked (hlinked.keep (.of_quiet hq)) ((hq.record? l).trans hp)
      obtain ⟨b, hb⟩ := hanswered
      cases hb
    | @forgotten bound isNew cause b u hnew hb hp _ =>
      have hsame := hb.sameSetup .pending
      -- What fails in turn was asked for while the location was pending.
      have hasked : ∀ {m v}, Keeps (b.setRecord l .pending) v → v.Depends l m →
          generateWithin n m v = some (.error cause, u) → Traces s l (.generation l cause) (u.eraseRecord l) := by
        intro m v hk hdep ha
        refine .cons hnew hb hk hdep (generateWithin_keeps ha) (ih ?_ ?_ (hlinked.mark hb hk hdep) ha)
        · rw [hk.loads.catalog, hsame.loads.catalog]
          exact hcatalog
        · rw [hk.generators, hsame.generators]
          exact hgen
      cases hp with
      | refused _ _ _ hcause =>
        refine .own hnew (hcause.elim id fun hload => ?_)
        rw [hsame.loads.catalog] at hload
        exact hcatalog hload
      | @reference node target _ _ _ hres ht ha =>
        have hq := redirected_quiet (b.setRecord l .pending) l target
        exact hasked (.of_quiet hq) ⟨node, node?_of_resolve hres, Or.inl ht⟩ ha
      | @failed node generator _ _ _ hd hrun =>
        obtain ⟨hreads, kind, hk, hget⟩ := hd
        rw [hsame.generators, hgen] at hget
        have hopened : Keeps (b.setRecord l .pending) ((b.setRecord l .pending).opened l node) := .of_quiet (opened_quiet _ _ _)
        rcases run_error generateWithin_keeps (Generators.standard_fits hget hk) (Generator.standard_requires hget _) hrun with
          hown | ⟨m, v, hm, hkeep, ha⟩
        · exact .own hnew hown
        · refine hasked (hopened.trans hkeep) ⟨node, hkeep.loads.node? ?_, Or.inr ⟨hreads.plain, hm⟩⟩ ha
          exact node?_of_opened hreads.resolved
      | unwritten _ _ _ _ _ hwrite => exact .own hnew (trail_of_write hwrite)

/-- Errors trace a path of dependencies: where no location is pending, the error of a failed request wraps its root
    cause once for each of a list of locations. The list starts with the location that was asked for, and each
    location on it depends directly on the next. They all differ, and none has a record afterwards. -/
theorem error_traces_dependencies {fuel : Nat} {e : Error} (hcatalog : s.catalog.OwnErrors)
    (hgen : s.generators = .standard) (hidle : ∀ p, s.record? p ≠ some .pending)
    (h : generateWithin fuel l s = some (.error e, t)) :
    ∃ trail : List Location, e = trail.foldr .generation e.rootCause ∧ (∀ m cause, e.rootCause ≠ .generation m cause) ∧
      trail.head? = some l ∧ trail.Nodup ∧ (∀ m ∈ trail, t.record? m = none) ∧ trail.IsChain t.Depends := by
  have htraces := generateWithin_traces hcatalog hgen (Linked.idle hidle) h
  refine ⟨e.trail, e.eq_foldr_trail, fun m cause hroot => ?_, htraces.head, htraces.nodup, htraces.forgotten,
    htraces.depends⟩
  have hnil := e.trail_rootCause
  rw [hroot] at hnil
  cases hnil

end Session

/-! ### A loan -/

/-- A document in which a loan refers to a book, whose author refers to a schema that is missing. -/
def loanDocument : Uri × Json :=
  (⟨"urn", "", none, none, none, .rootless "library", none, none⟩,
    .object [("loan", .object [("$ref", .string "#/book")]),
      ("book", .object [("type", .string "object"), ("properties", .object
        [("author", .object [("$ref", .string "#/person")])])])])

namespace Session

def loanSession : Session := .new (.preloaded [loanDocument]) (.memory .empty []) ⟨"/", []⟩

theorem error_traces_dependencies_loan :
    let part (name : String) : Location := ⟨loanDocument.1, "/" ++ name⟩
    let e : Error := .generation (part "loan") (.generation (part "book") (.generation (part "person")
      (.missingSchema (part "person"))))
    ∃ t, loanSession.generate (part "loan") = some (.error e, t) ∧
      ∃ trail : List Location, e = trail.foldr .generation e.rootCause ∧ (∀ m cause, e.rootCause ≠ .generation m cause) ∧
        trail.head? = some (part "loan") ∧ trail.Nodup ∧ (∀ m ∈ trail, t.record? m = none) ∧ trail.IsChain t.Depends := by
  intro part e
  have hrun : (loanSession.generate (part "loan")).map (fun r => r.1) = some (.error e) := by decide +kernel
  obtain ⟨⟨_, t⟩, hgenerate, rfl⟩ := Option.map_eq_some_iff.mp hrun
  exact ⟨t, hgenerate, error_traces_dependencies (Catalog.OwnErrors.preloaded _) rfl (fun _ h => by cases h) hgenerate⟩

end Session

end SchemaBeans
