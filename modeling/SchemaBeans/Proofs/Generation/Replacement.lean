import SchemaBeans.Proofs.Generation.Release
import SchemaBeans.Proofs.Generation.Setting
import SchemaBeans.Proofs.Generation.Surplus

/-! Mappings that replace others.

A mapping replaces an earlier one of its target, but the name of the type that the target was mapped to stays in use
(`Mapping.replaced`). Main statement: with all mappings of a list and with the last ones for their targets, a run passes
through the same sessions exactly if in the latter run no location is ever bound to a type with such a name
(`Session.latest_mappings_suffice_iff`). -/

namespace SchemaBeans

namespace Mapping

/-- The mappings that no later one replaces. -/
def latest : List Mapping → List Mapping
  | [] => []
  | mapping :: rest =>
    if rest.any (·.target = mapping.target) then latest rest else mapping :: latest rest

/-- The names that only mappings have which are replaced by later ones. -/
def replaced (mappings : List Mapping) : List (String × String) :=
  (names mappings).removeAll (names (latest mappings))

theorem mem_replaced {mappings : List Mapping} {n : String × String} :
    n ∈ replaced mappings ↔ n ∈ names mappings ∧ n ∉ names (latest mappings) := by
  simp [replaced, List.removeAll]

theorem latest_sublist (mappings : List Mapping) : (latest mappings).Sublist mappings := by
  induction mappings with
  | nil => exact .slnil
  | cons mapping rest ih =>
    unfold latest
    split
    · exact ih.cons mapping
    · exact ih.cons_cons mapping

theorem mem_names_iff (mappings : List Mapping) (n : String × String) :
    n ∈ names mappings ↔ n ∈ names (latest mappings) ∨ n ∈ replaced mappings := by
  have hsub : n ∈ names (latest mappings) → n ∈ names mappings :=
    fun hn => ((latest_sublist mappings).filterMap _).subset hn
  rw [mem_replaced]
  by_cases hn : n ∈ names (latest mappings)
  · exact iff_of_true (hsub hn) (Or.inl hn)
  · simp only [hn, false_or, not_false_eq_true, and_true]

end Mapping

namespace Mappings

theorem get?_foldl_put (mappings : List Mapping) (store : Mappings) (l : Location) :
    (mappings.foldl put store).get? l = (mappings.reverse.find? (·.target = l)).or (store.get? l) := by
  induction mappings generalizing store with
  | nil => rfl
  | cons mapping rest ih =>
    rw [List.foldl_cons, ih, get?_put, List.reverse_cons, List.find?_append, Option.or_assoc, List.find?_singleton]
    by_cases hl : l = mapping.target
    · simp [hl]
    · simp [hl, Ne.symm hl]

theorem get?_latest (mappings : List Mapping) (l : Location) :
    (ofList (Mapping.latest mappings)).get? l = (ofList mappings).get? l := by
  have hfind : (Mapping.latest mappings).reverse.find? (·.target = l) = mappings.reverse.find? (·.target = l) := by
    induction mappings with
    | nil => rfl
    | cons mapping rest ih =>
      unfold Mapping.latest
      rw [List.reverse_cons, List.find?_append, ← ih]
      split
      · rename_i hlater
        by_cases hl : mapping.target = l
        · -- The location has a later mapping, which is found first.
          obtain ⟨later, hmem, htarget⟩ := List.any_eq_true.mp hlater
          have hfound : (rest.reverse.find? (·.target = l)).isSome := by
            rw [List.find?_isSome]
            exact ⟨later, List.mem_reverse.mpr hmem, by simpa [hl] using htarget⟩
          rw [ih, Option.or_of_isSome hfound]
        · simp [hl]
      · rw [List.reverse_cons, List.find?_append]
  rw [ofList, ofList, get?_foldl_put, get?_foldl_put, hfind]

theorem type?_latest (mappings : List Mapping) (l : Location) :
    (ofList (Mapping.latest mappings)).type? l = (ofList mappings).type? l := by
  rw [type?_eq_bind, get?_latest, ← type?_eq_bind]

theorem not_mem_replaced {mappings : List Mapping} {l : Location} {x : JavaType} (h : (ofList mappings).type? l = some x) :
    x.identity ∉ Mapping.replaced mappings := by
  intro hmem
  rw [← type?_latest] at h
  exact (Mapping.mem_replaced.mp hmem).2 (mem_names_of_type? h)

end Mappings

/-- What a session starts with, mappings apart. -/
structure Start where
  catalog : Catalog
  output : Output
  files : Files
  features : Features
  known : KnownTypes
  generators : Generators

/-- A session in which mappings were added one after the other, and nothing was asked for. -/
def Start.session (start : Start) (mappings : List Mapping) : Session :=
  mappings.foldl Session.addMapping { Session.new start.catalog start.output start.files with
    features := start.features, known := start.known, generators := start.generators }

namespace Session

/-- What comes of requests: the answers, the records, the sources that were written, and the output. -/
def results (s : Session) (requests : List Location) :
    Option (List Answer × Table Location Record × List Written × Output) :=
  (s.answerAll requests).map fun r => (r.1, r.2.records, r.2.written, r.2.output)

variable {start : Start} {mappings : List Mapping} {extra : List (String × String)}

/-! ### The start -/

theorem taken_addMappings (mappings : List Mapping) (s : Session) (n : String × String) :
    n ∈ (mappings.foldl addMapping s).names.taken ↔ n ∈ Mapping.names mappings ∨ n ∈ s.names.taken := by
  induction mappings generalizing s with
  | nil => simp [Mapping.names]
  | cons mapping rest ih =>
    obtain ⟨target, _ | x⟩ := mapping
    · rw [List.foldl_cons, ih]
      exact Iff.rfl
    · rw [List.foldl_cons, ih]
      simp only [addMapping, Names.mem_reserve, Mapping.names, List.filterMap_cons, Option.map_some, List.mem_cons]
      exact or_left_comm.trans or_assoc.symm

theorem start_frame (start : Start) (mappings : List Mapping) : start.session mappings =
    { Session.new start.catalog start.output start.files with
      features := start.features, known := start.known, generators := start.generators
      names := (start.session mappings).names, mappings := Mappings.ofList mappings } :=
  addMappings_frame mappings _

theorem mappings_start : (start.session mappings).mappings = Mappings.ofList mappings := by rw [start_frame]

theorem taken_start (n : String × String) : n ∈ (start.session mappings).names.taken ↔ n ∈ Mapping.names mappings :=
  (taken_addMappings mappings _ n).trans (or_iff_left List.not_mem_nil)

theorem accounted_start : Accounted mappings (start.session mappings) := by
  refine .start mappings_start taken_start (fun l => ?_) ?_
  · rw [start_frame]
    rfl
  · rw [start_frame]
    rfl

theorem surplus_start (start : Start) (mappings : List Mapping) :
    Surplus (Mapping.replaced mappings) (start.session mappings) (start.session (Mapping.latest mappings)) := by
  refine ⟨⟨?_, fun l => ?_⟩, fun n => ?_⟩
  · rw [start_frame start mappings, start_frame start (Mapping.latest mappings)]
    rfl
  · rw [mappings_start, mappings_start, Mappings.get?_latest]
  · rw [taken_start, taken_start]
    exact Mapping.mem_names_iff mappings n

/-! ### Names that were replaced -/

/-- With all mappings added, no location is ever bound to a type whose name was replaced. -/
theorem Accounted.avoids {s : Session} (h : Accounted mappings s) : Avoids (Mapping.replaced mappings) s := by
  intro l x hx
  cases hmapped : (Mappings.ofList mappings).type? l with
  | some y =>
    cases (h.mapped hmapped).symm.trans hx
    exact Mappings.not_mem_replaced hmapped
  | none => exact fun hmem => h.fresh hmapped hx (Mapping.mem_replaced.mp hmem).1

theorem Agree.avoids {s s' : Session} (h : Agree s s') (hs : Avoids extra s) : Avoids extra s' := by
  intro l x hx
  rw [h.type?] at hx
  exact hs l x hx

theorem Avoids.congr {s t : Session} (h : Avoids extra s) (hm : t.mappings = s.mappings) : Avoids extra t := by
  rw [Avoids, hm]
  exact h

/-- Types are found in the default package, so names in other packages are avoided. -/
theorem Avoids.isKept {package : String} (hextra : ∀ n ∈ extra, n.1 ≠ package) :
    Kept (fun _ => True) fun s => s.features.value Feature.defaultPackage = package ∧ Avoids extra s where
  quiet := fun h hq => ⟨hq.features ▸ h.1, h.2.congr hq.mappings⟩
  mark := by
    intro s l h _ _
    have hb := s.marked_binds l
    have hframe := hb.frame
    refine ⟨?_, fun m x hx => ?_⟩
    · rw [marked, hframe]
      exact h.1
    · by_cases hm : m = l
      · subst hm
        cases (marked_type? s m).symm.trans hx
        -- A type that is found lies in the default package, where no name was replaced.
        rw [bindType_type]
        cases hheld : s.mappings.type? m with
        | some y => exact h.2 m y hheld
        | none => exact fun hmem => hextra _ hmem h.1
      · exact h.2 m x ((hb.type?_of_ne hm).symm.trans hx)
  write := by
    intro _ _ _ _ _ _ _ _ _ _ _ _ h _ _ _ _ _ _ hw
    rw [write_frame hw]
    exact h
  settle := by
    intro _ _ _ _ _ _ _ _ _ _ _ _ _ h _
    refine ⟨?_, fun m x hx => h.2 m x (type?_of_settle hx)⟩
    rw [settle_frame]
    exact h.1
  assume := fun _ _ _ _ h _ => h
  forget := fun _ _ _ _ h _ => h
  reply := fun h => h

theorem avoids_of_package (start : Start) (mappings : List Mapping) (requests : List Location)
    (hpackage : ∀ n ∈ Mapping.replaced mappings, n.1 ≠ start.features.value Feature.defaultPackage) :
    ∀ v ∈ (start.session (Mapping.latest mappings)).momentsAll requests, Avoids (Mapping.replaced mappings) v := by
  intro v hv
  refine ((Avoids.isKept hpackage).throughoutAll (fun _ _ => trivial) ⟨?_, fun l x hx => ?_⟩ v hv).2
  · rw [start_frame]
  · rw [mappings_start, Mappings.type?_latest] at hx
    exact Mappings.not_mem_replaced hx

/-! ### Runs -/

/-- However many mappings there are for a location, only the last one is stored, but the names of all types that were
    mapped to it stay in use. Let all mappings of a list be added in one session, and in another one only the last ones
    for their targets. Requests, answered or not, lead both through sessions that agree exactly if in the latter no
    location is ever bound to a type whose name was replaced, and then the answers, the records and what was written are
    the same. This is so in particular if no such name is in the default package. -/
theorem latest_mappings_suffice_iff (start : Start) (mappings : List Mapping) (requests : List Location) :
    (∀ l, (start.session (Mapping.latest mappings)).mappings.get? l = (start.session mappings).mappings.get? l) ∧
    (∀ n, n ∈ (start.session mappings).names.taken ↔
      n ∈ (start.session (Mapping.latest mappings)).names.taken ∨ n ∈ Mapping.replaced mappings) ∧
    (List.Forall₂ Agree ((start.session mappings).momentsAll requests)
        ((start.session (Mapping.latest mappings)).momentsAll requests) ↔
      ∀ v ∈ (start.session (Mapping.latest mappings)).momentsAll requests, Avoids (Mapping.replaced mappings) v) ∧
    ((∀ v ∈ (start.session (Mapping.latest mappings)).momentsAll requests, Avoids (Mapping.replaced mappings) v) →
      (start.session mappings).results requests = (start.session (Mapping.latest mappings)).results requests) ∧
    ((∀ n ∈ Mapping.replaced mappings, n.1 ≠ start.features.value Feature.defaultPackage) →
      ∀ v ∈ (start.session (Mapping.latest mappings)).momentsAll requests, Avoids (Mapping.replaced mappings) v) := by
  have hstart := surplus_start start mappings
  refine ⟨hstart.get?, hstart.taken, ⟨fun hagree => ?_, fun havoids => ?_⟩, fun havoids => ?_,
    avoids_of_package start mappings requests⟩
  · have haccounted : ∀ v ∈ (start.session mappings).momentsAll requests, Accounted mappings v :=
      Accounted.isKept.throughoutAll (fun _ _ => trivial) accounted_start
    have hboth := ((List.forall₂_and_left _ _).mpr ⟨haccounted, hagree⟩).flip
    have havoids : List.Forall₂ (fun v' v => Avoids (Mapping.replaced mappings) v' ∧ Agree v v')
        ((start.session (Mapping.latest mappings)).momentsAll requests) ((start.session mappings).momentsAll requests) :=
      hboth.imp fun _ _ h => ⟨h.2.avoids h.1.avoids, h.2⟩
    exact ((List.forall₂_and_left _ _).mp havoids).1
  · exact (hstart.answerAll havoids).2.imp fun _ _ h => h.toAgree
  · obtain ⟨hanswers, -⟩ := hstart.answerAll havoids
    rw [results, results]
    generalize (start.session mappings).answerAll requests = o,
      (start.session (Mapping.latest mappings)).answerAll requests = o' at hanswers ⊢
    rcases hanswers with ⟨hsame, hagree⟩ | _
    · rw [Option.map_some, Option.map_some, hsame, hagree.records, hagree.written, hagree.output]
    · rfl

end Session

/-! ### Nodes -/

/-- A document with one schema, of an object. -/
def stockDocument : Uri × Json :=
  (⟨"urn", "", none, none, none, .rootless "stock", none, none⟩,
    .object [("definitions", .object [("node", .object [("type", .string "object")])])])

def stockAt (name : String) : Location := ⟨stockDocument.1, "/definitions/" ++ name⟩

def stock : Start := ⟨.preloaded [stockDocument], .memory .empty [], ⟨"/", []⟩, .empty, .standard, .standard⟩

/-- Another location than that of the schema is mapped to a type, and then to a different one. -/
def remapped (first : JavaType) : List Mapping :=
  [⟨stockAt "other", some first⟩, ⟨stockAt "other", some (.plain "shop" "Other")⟩]

namespace Session

/-- A name in another package that was replaced makes no difference. -/
theorem latest_mappings_suffice_iff_stock : Mapping.replaced (remapped (.plain "shop" "Node")) = [("shop", "Node")] ∧
    (stock.session (remapped (.plain "shop" "Node"))).results [stockAt "node"] =
      (stock.session (Mapping.latest (remapped (.plain "shop" "Node")))).results [stockAt "node"] := by
  have hreplaced : Mapping.replaced (remapped (.plain "shop" "Node")) = [("shop", "Node")] := by decide +kernel
  obtain ⟨-, -, -, hsame, hpackage⟩ :=
    latest_mappings_suffice_iff stock (remapped (.plain "shop" "Node")) [stockAt "node"]
  refine ⟨hreplaced, hsame (hpackage ?_)⟩
  rw [hreplaced]
  decide

/-- The object is not called `Node` if some other location was mapped to a type of that name once, though it is mapped
    to another type by now. -/
theorem replaced_name_passed_over :
    ((stock.session (remapped (.plain "anonymous" "Node"))).results [stockAt "node"]).map
        (fun r => (r.1.map Except.toOption, r.2.2.1.map (·.type))) =
      some ([some (some (.plain "anonymous" "Node2"))], [.plain "anonymous" "Node2"]) ∧
    ((stock.session (Mapping.latest (remapped (.plain "anonymous" "Node")))).results [stockAt "node"]).map
        (fun r => (r.1.map Except.toOption, r.2.2.1.map (·.type))) =
      some ([some (some (.plain "anonymous" "Node"))], [.plain "anonymous" "Node"]) := by
  decide +kernel

end Session

end SchemaBeans
