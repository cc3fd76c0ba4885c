import Mathlib.Data.List.Forall2
import SchemaBeans.Proofs.Generation.Refinement

/-! The order of requests does not matter.

Where every location with a type of its own is mapped to one, explanations do not depend on a session. A run
that succeeds explains every location it leads to; where these are explained, no run fails; and each of them
is answered with the type, and gets the source, that its explanation says. -/

namespace SchemaBeans

open Java (Source)

/-- Locations in `R` with a type of their own are mapped to one. -/
def Setup.Mapped (w : Setup) (R : Location → Prop) : Prop :=
  ∀ l, R l → w.Emits l → ∃ t, w.configured.type? l = some t

/-- Locations in `R` have a type and a source that follow from the setup. -/
def Setup.Explained (w : Setup) (R : Location → Prop) : Prop :=
  ∀ l, R l → ∃ a source, w.Explains w.configured (w.Denotes w.configured) l a source

namespace Session
variable {w : Setup} {R : Location → Prop} {s t u : Session} {l m : Location} {a : Option JavaType}
  {bound : JavaType} {isNew : Bool} {source : Source}

/-! ### What a session explains -/

section Mapped
variable (hR : ∀ {m m'}, R m → w.Needs m m' → R m') (hmapped : w.Mapped R)
include hR hmapped

theorem Accounts.denotes (hs : s.Faithful w R) (h : s.Accounts w l a) : w.Denotes w.configured l a := by
  refine h.1.mono (R := R) (hs.reached h.2) (fun hm hh => hR hm hh.needs) fun {m x} hm he hx => ?_
  obtain ⟨y, hy⟩ := hmapped m hm he
  cases (hs.configured hy).symm.trans hx
  exact hy

theorem Faithful.explains (hs : s.Faithful w R) (hl : R l) (h : w.Explains s.mappings (s.Accounts w) l a source) :
    w.Explains w.configured (w.Denotes w.configured) l a source := by
  refine h.mono (fun x he hx => ?_) fun _ _ hm => hm.denotes hR hmapped hs
  obtain ⟨y, hy⟩ := hmapped l hl he
  cases (hs.configured hy).symm.trans hx
  exact hy

end Mapped

/-- At the end of a run everything that its requests lead to is resolved. -/
theorem Faithful.resolved_of_reached {requests : List Location} (hs : s.Faithful w R)
    (hidle : ∀ p, s.record? p ≠ some .pending) (hall : ∀ l ∈ requests, (s.record? l).isSome)
    (hl : w.Reached requests l) : ∃ a, s.record? l = some (.resolved a) := by
  obtain ⟨r, hr, hl⟩ := hl
  induction hl with
  | refl => exact resolved_of_recorded hidle (fun _ => hs.unfailed) (hall r hr)
  | tail _ hm ih =>
    obtain ⟨a, ha⟩ := ih
    obtain ⟨source, hexp, -⟩ := hs.resolved ha
    obtain ⟨b, hb⟩ := hexp.needs hm
    exact resolved_of_recorded hidle (fun _ => hs.unfailed) hb.2

/-! ### Runs do not fail -/

theorem Faithful.not_stuck {store : Mappings} {D : Location → Option JavaType → Prop} (h : s.Faithful w R)
    (hl : ∀ t, ¬w.Pinned l t) (hexp : w.Explains store D l a source) : ¬s.Stuck l := by
  intro hstuck
  obtain ⟨hrefers, hnull, hdispatch⟩ := h.stuck hstuck
  cases hexp with
  | pinned hp => exact hl _ hp
  | reference hr _ => exact hrefers _ hr
  | null hs hk => exact hnull _ hs hk
  | generated hs hk hg _ _ => exact hdispatch _ _ _ hs hk hg

section Progress
variable {ask : Location → Session → Outcome (Option JavaType)}
  (hkeep : ∀ {m u r v}, ask m u = some (r, v) → Keeps u v)
  (hstores : ∀ {m u r v}, ask m u = some (r, v) → u.Stores → v.Stores)
  (hask : ∀ {m u b v}, ask m u = some (.ok b, v) → Ready w R (Faithful w R) u m → v.Faithful w R ∧ v.Accounts w m b)
  (hok : ∀ {m u r v}, ask m u = some (r, v) → Ready w R (Faithful w R) u m → u.Stores → ∃ b, r = .ok b)
  (hR : ∀ {m m'}, R m → w.Needs m m' → R m') (hmapped : w.Mapped R)
include hkeep hstores hask hok hR hmapped

theorem run_ok {P : Location → Prop} {Q : Option JavaType → Source → Prop} {plan : Plan} (hfits : plan.Fits P Q)
    (hready : ∀ m, P m → ∀ v, Keeps s v → v.Faithful w R → Ready w R (Faithful w R) v m) (hs : s.Faithful w R) (hst : s.Stores)
    (hy : plan.Yields (w.Denotes w.configured) a source) {r : Except Error (Option JavaType × Source)}
    (hrun : plan.run ask s = some (r, t)) : ∃ ended, r = .ok ended := by
  induction plan generalizing s with
  | done type source =>
    cases hrun
    exact ⟨_, rfl⟩
  | fail e => cases hy
  | note entry next ih =>
    have hq := Quiet.note s entry
    cases hy with
    | note hy =>
      exact ih hfits (fun m hm v hv => hready m hm v ((Keeps.of_quiet hq).trans hv)) (hs.quiet hq)
        (Stores.steady.quiet hq hst) hy hrun
  | request m next ih =>
    obtain ⟨hm, -, hnext⟩ := hfits
    unfold Plan.run at hrun
    split at hrun
    · cases hrun
    · rename_i answer u ha
      have hrm := hready m hm s (Keeps.refl s) hs
      obtain ⟨b, rfl⟩ := hok ha hrm hst
      obtain ⟨hu, hb⟩ := hask ha hrm
      cases hy with
      | request hb' hy =>
        -- A location means one type only, so the plan goes on as it does by the meanings.
        cases hb'.unique (hb.denotes hR hmapped hu)
        exact ih (.ok b) (hnext b) (fun m hm v hv => hready m hm v ((hkeep ha).trans hv)) hu (hstores ha hst) hy hrun

/-- Where locations are explained, no type fails to be produced. -/
theorem Produces.not_error (hexplained : w.Explained R) (hready : Ready w R (Faithful w R) s l) (hst : s.Stores)
    (hnew : s.record? l = none) (hb : Binds s l bound isNew t) {e : Error} :
    ¬Produces ask l bound (t.setRecord l .pending) (.error e) u := by
  have hs := hready.holds.mark hb hready.reached hnew
  have hst' : (t.setRecord l .pending).Stores := by
    rw [hb.frame]
    exact hst
  obtain ⟨a, source, hexp⟩ := hexplained l hready.reached
  intro h
  cases h with
  | refused hg hstuck _ => exact hs.not_stuck (hs.unpinned hb.type?_self hg) hexp hstuck
  | @reference node target _ _ hg hn ht ha =>
    have hrefers : w.Refers l target := hs.refers hb.type?_self hg hn ht
    have hq := redirected_quiet (t.setRecord l .pending) l target
    obtain ⟨_, hans⟩ := hok ha (hready.redirect hR hnew hb hrefers (hs.quiet hq)) (Stores.steady.quiet hq hst')
    cases hans
  | @failed node generator _ _ hg hd hrun =>
    have hq := opened_quiet (t.setRecord l .pending) l node
    obtain ⟨kind, hschema, hk, hgen⟩ := hs.dispatches hb.type?_self hg hd
    -- The type that was requested is the one that the location is mapped to.
    have hy : (generator ⟨l, bound, node, .empty⟩).Yields (w.Denotes w.configured) a source := by
      refine hexp.plan hschema hk hgen fun he => ?_
      obtain ⟨x, hx⟩ := hmapped l hready.reached he
      cases (hs.configured hx).symm.trans hb.type?_self
      exact hx
    rw [task, hs.features] at hrun
    obtain ⟨_, hended⟩ := run_ok hkeep hstores hask hok hR hmapped (Generators.standard_fits hgen hk)
      (fun m hm v hv => hready.dispatch hR hnew hb hschema hm hv) (hs.quiet hq) (Stores.steady.quiet hq hst') hy hrun
    cases hended
  | unwritten hg hd hrun _ _ hw =>
    have hv := Stores.steady.run hstores hrun (Stores.steady.quiet (opened_quiet _ _ _) hst')
    cases (hv.write hw).1

end Progress

section Runs
variable (hR : ∀ {m m'}, R m → w.Needs m m' → R m') (hground : ∀ {c}, R c → ¬Relation.TransGen w.Hop c c)
  (hmapped : w.Mapped R) (hexplained : w.Explained R)
include hR hground hmapped hexplained

theorem generateWithin_ok {n : Nat} {r : Answer} (hready : Ready w R (Faithful w R) s l) (hst : s.Stores)
    (h : generateWithin n l s = some (r, t)) : ∃ a, r = .ok a := by
  induction n generalizing l s r t with
  | zero => cases h
  | succ n ih =>
    obtain ⟨_, u, hn, hr, rfl⟩ := generateWithin_responds h
    cases hn
    cases hr with
    | resolved _ _ => exact ⟨_, rfl⟩
    | failed _ => exact ⟨_, rfl⟩
    | pending hr hq hst =>
      obtain ⟨a, ha, -⟩ := (hready.keep (.of_quiet hq) (hready.holds.quiet hq)).stands hground
        ((hq.record? _).trans hr) hst
      exact ⟨a, ha⟩
    | settled _ _ _ => exact ⟨_, rfl⟩
    | assumed _ _ _ _ _ => exact ⟨_, rfl⟩
    | forgotten hnew hb hp _ =>
      exact absurd hp (Produces.not_error (fun h => generateWithin_keeps h) (fun h hst => Stores.generates h hst)
        (fun h hready => generateWithin_faithful hR hground hready h) (fun h hready hst => ih hready hst h) hR hmapped
        hexplained hready hst hnew hb)

theorem generateAll_ok {requests : List Location} (hrequests : ∀ l ∈ requests, R l) (hs : s.Faithful w R)
    (hidle : ∀ p, s.record? p ≠ some .pending) (hst : s.Stores) :
    ∃ types t, s.generateAll requests = some (.ok types, t) := by
  induction requests generalizing s with
  | nil => exact ⟨[], s, rfl⟩
  | cons l rest ih =>
    have hready : Ready w R (Faithful w R) s l := .idle hidle hs (hrequests l List.mem_cons_self)
    obtain ⟨⟨r, u⟩, hr⟩ := Option.isSome_iff_exists.mp (generate_isSome hs.documents hs.generators l)
    obtain ⟨a, rfl⟩ := generateWithin_ok hR hground hmapped hexplained hready hst hr
    obtain ⟨hu, -⟩ := generateWithin_faithful hR hground hready hr
    obtain ⟨types, t, ht⟩ := ih (fun m hm => hrequests m (List.mem_cons_of_mem _ hm)) hu
      (fun p hp => hidle p ((generateWithin_keeps hr).pending hp)) (Stores.generates hr hst)
    refine ⟨a :: types, t, ?_⟩
    rw [generateAll, hr]
    simp only [ht]

end Runs

/-! ### What is written -/

section Written
variable (hR : ∀ {m m'}, R m → w.Needs m m' → R m') (hmapped : w.Mapped R)
include hR hmapped

theorem Faithful.written_subset (hs : s.Faithful w R) (ht : t.Faithful w R)
    (hall : ∀ l, R l → ∃ a, t.record? l = some (.resolved a)) : s.written ⊆ t.written := by
  intro e he
  obtain ⟨hr, source, hexp, hnonempty, htext⟩ := hs.written e he
  have hl : R e.location := hs.reached (by rw [hr]; rfl)
  obtain ⟨a, ha⟩ := hall _ hl
  obtain ⟨source', hexp', hw⟩ := ht.resolved ha
  obtain ⟨rfl, rfl⟩ := (hs.explains hR hmapped hl hexp).unique (ht.explains hR hmapped hl hexp')
  obtain ⟨x, hx, hmem⟩ := hw hnonempty
  cases hx
  rwa [← htext] at hmem

/-- The sources that are written for different locations have different paths if the types that are mapped to
    these have. -/
theorem Faithful.written_paths (hs : s.Faithful w R)
    (hpaths : ∀ l m t t', R l → R m → w.Emits l → w.Emits m → w.configured.type? l = some t →
      w.configured.type? m = some t' → l ≠ m → Path.same (sourcePath t) (sourcePath t') = false)
    {e e' : Written} (he : e ∈ s.written) (he' : e' ∈ s.written)
    (hpath : Path.same (sourcePath e.type) (sourcePath e'.type) = true) : (e.type, e.text) = (e'.type, e'.text) := by
  -- Each source stands for a location with a type of its own, and has that type.
  have hown : ∀ {e}, e ∈ s.written →
      R e.location ∧ w.Emits e.location ∧ w.configured.type? e.location = some e.type := by
    intro e he
    obtain ⟨hr, source, hexp, hnonempty, -⟩ := hs.written e he
    have hl : R e.location := hs.reached (by rw [hr]; rfl)
    have hemits : w.Emits e.location := hexp.emits hnonempty
    obtain ⟨x, hx, hex⟩ := (hs.explains hR hmapped hl hexp).type hemits
    cases hex
    exact ⟨hl, hemits, hx⟩
  obtain ⟨hl, hemits, htype⟩ := hown he
  obtain ⟨hl', hemits', htype'⟩ := hown he'
  obtain ⟨hr, source, hexp, -, htext⟩ := hs.written e he
  obtain ⟨hr', source', hexp', -, htext'⟩ := hs.written e' he'
  -- One location is explained in one way; different ones have sources at different paths.
  by_cases hloc : e.location = e'.location
  · rw [← hloc] at hexp'
    obtain ⟨htypes, rfl⟩ := (hs.explains hR hmapped hl hexp).unique (hs.explains hR hmapped hl hexp')
    rw [Option.some.inj htypes, htext, htext']
  · rw [hpaths _ _ _ _ hl hl' hemits hemits' htype htype' hloc] at hpath
    cases hpath

end Written

end Session

/-! ### Requests in any order -/

namespace Setup

/-- Requests to a new session that keeps its sources in memory. -/
def run (w : Setup) (files : Files) (uris : List Uri) : Outcome (List (Option JavaType)) :=
  (w.session (.memory .empty []) files).generateAll (uris.map Location.ofUri)

section Run
variable {w : Setup} {R : Location → Prop} {files : Files} {uris : List Uri} {types : List (Option JavaType)}
  {s : Session}

theorem reached_congr {requests requests' : List Location} (h : ∀ l, l ∈ requests ↔ l ∈ requests') :
    w.Reached requests = w.Reached requests' := by
  funext l
  simp only [Reached, h]

/-- How a run that succeeds has ended: everything that its requests lead to is resolved, what is in memory was
    written, and the answers are what the requests mean. -/
structure Ended (w : Setup) (R : Location → Prop) (uris : List Uri) (types : List (Option JavaType)) (s : Session) :
    Prop where
  faithful : s.Faithful w R
  resolved : ∀ l, R l → ∃ a, s.record? l = some (.resolved a)
  stores : s.Stores
  types : List.Forall₂ (w.Denotes w.configured) (uris.map Location.ofUri) types

section Order
variable (hR : R = w.Reached (uris.map Location.ofUri)) (hground : ∀ {c}, R c → ¬Relation.TransGen w.Hop c c)
  (hmapped : w.Mapped R)
include hR hground hmapped

theorem ended_of_run (hrun : w.run files uris = some (.ok types, s)) : Ended w R uris types s := by
  subst hR
  have hidle := Session.setup_idle w (.memory .empty []) files
  obtain ⟨hs, hall⟩ := Session.generateAll_faithful Reached.needs hground (fun l hl => ⟨l, hl, .refl⟩) (.start w _ _)
    hidle hrun
  have hk := Session.generateAll_keeps hrun
  obtain ⟨hrecorded, htypes⟩ := (List.forall₂_and_left _ _).mp (hall.imp fun l a h =>
    show (s.record? l).isSome ∧ w.Denotes w.configured l a from ⟨h.2, h.denotes Reached.needs hmapped hs⟩)
  exact ⟨hs, fun l hl => hs.resolved_of_reached (fun p hp => hidle p (hk.pending hp)) hrecorded hl,
    Session.Stores.steady.generatesAll Session.Stores.generates hrun (Session.setup_stores w files), htypes⟩

theorem run_of_explained (hexplained : w.Explained R) (files : Files) :
    ∃ types s, w.run files uris = some (.ok types, s) := by
  subst hR
  exact Session.generateAll_ok Reached.needs hground hmapped hexplained (fun l hl => ⟨l, hl, .refl⟩) (.start w _ _)
    (Session.setup_idle w _ files) (Session.setup_stores w files)

end Order

theorem Ended.explained (h : Ended w R uris types s) (hR : ∀ {m m'}, R m → w.Needs m m' → R m') (hmapped : w.Mapped R) :
    w.Explained R := by
  intro l hl
  obtain ⟨a, ha⟩ := h.resolved l hl
  obtain ⟨source, hexp, -⟩ := h.faithful.resolved ha
  exact ⟨a, source, h.faithful.explains hR hmapped hl hexp⟩

theorem Ended.types_eq {f : Location → Option JavaType} (h : Ended w R uris types s)
    (hf : ∀ l a, w.Denotes w.configured l a → f l = a) : types = uris.map fun u => f (.ofUri u) := by
  have hall := h.types
  generalize hl : uris.map Location.ofUri = locations at hall
  have heq : types = locations.map f := by
    clear hl h
    induction hall with
    | nil => rfl
    | cons hd _ ih => rw [List.map_cons, hf _ _ hd, ← ih]
  rw [heq, ← hl, List.map_map]
  rfl

end Run

/-- Where every location with a type of its own that requests lead to is mapped to a type, with sources at
    different paths, and references and arrays do not go in a circle, the order of the requests and how often
    they are repeated make no difference: one run succeeds if the other does, both answer every request with
    the same type, and in the end both have the same sources in memory. -/
theorem run_order_independent {w : Setup} {files : Files} {us vs : List Uri} (hsame : ∀ u, u ∈ us ↔ u ∈ vs)
    (hground : w.Grounded (us.map Location.ofUri)) (hmapped : w.Mapped (w.Reached (us.map Location.ofUri)))
    (hpaths : ∀ l m t t', w.Reached (us.map Location.ofUri) l → w.Reached (us.map Location.ofUri) m →
      w.Emits l → w.Emits m → w.configured.type? l = some t → w.configured.type? m = some t' → l ≠ m →
      Path.same (sourcePath t) (sourcePath t') = false) :
    ((∃ types s, w.run files us = some (.ok types, s)) ↔ ∃ types s, w.run files vs = some (.ok types, s)) ∧
    ∀ types s types' s', w.run files us = some (.ok types, s) → w.run files vs = some (.ok types', s') →
      (∃ f : Uri → Option JavaType, types = us.map f ∧ types' = vs.map f) ∧
      s.output.store.sources = s'.output.store.sources := by
  obtain ⟨R, hus, hvs⟩ : ∃ R, R = w.Reached (us.map Location.ofUri) ∧ R = w.Reached (vs.map Location.ofUri) := by
    refine ⟨_, rfl, reached_congr fun l => ?_⟩
    simp only [List.mem_map, hsame]
  rw [← hus] at hmapped hpaths
  have hground' : ∀ {c}, R c → ¬Relation.TransGen w.Hop c c := fun hc => hground _ (hus ▸ hc)
  have hR : ∀ {m m'}, R m → w.Needs m m' → R m' := by
    subst hus
    exact Reached.needs
  refine ⟨⟨?_, ?_⟩, ?_⟩
  · rintro ⟨types, s, hrun⟩
    exact run_of_explained hvs hground' hmapped ((ended_of_run hus hground' hmapped hrun).explained hR hmapped) files
  · rintro ⟨types, s, hrun⟩
    exact run_of_explained hus hground' hmapped ((ended_of_run hvs hground' hmapped hrun).explained hR hmapped) files
  · intro types s types' s' hrun hrun'
    have he := ended_of_run hus hground' hmapped hrun
    have he' := ended_of_run hvs hground' hmapped hrun'
    constructor
    · obtain ⟨f, hf⟩ := exists_type w w.configured
      exact ⟨fun u => f (.ofUri u), he.types_eq hf, he'.types_eq hf⟩
    · have hsub := he.faithful.written_subset hR hmapped he'.faithful he'.resolved
      have hsub' := he'.faithful.written_subset hR hmapped he.faithful he.resolved
      rw [he.stores, he'.stores]
      refine SourceStore.ofWritten_sources_eq
        (fun a => ⟨fun h => List.map_subset _ hsub h, fun h => List.map_subset _ hsub' h⟩) ?_
      intro a ha b hb hpath
      obtain ⟨e, hemem, rfl⟩ := List.mem_map.mp ha
      obtain ⟨e', hemem', rfl⟩ := List.mem_map.mp hb
      exact he.faithful.written_paths hR hmapped hpaths hemem hemem' hpath

/-! ### Trees -/

/-- The URI of the children in a tree. -/
def childrenUri : Uri := { treeDocument.1 with fragment := some "/properties/children" }

theorem tree_emits {l : Location} (hl : tree.Reached [treeNode, treeChildren] l) (he : tree.Emits l) :
    l = treeNode := by
  rcases tree_reached hl with rfl | rfl
  · rfl
  · exact absurd tree_lists he.not_lists

/-- A tree asked for before its children, and the children asked for first and again after the tree. -/
theorem run_order_independent_tree : ∃ types s types' s',
    tree.run ⟨"/", []⟩ [treeDocument.1, childrenUri] = some (.ok types, s) ∧
    tree.run ⟨"/", []⟩ [childrenUri, treeDocument.1, childrenUri] = some (.ok types', s') ∧
    (∃ f : Uri → Option JavaType, types = [treeDocument.1, childrenUri].map f ∧
      types' = [childrenUri, treeDocument.1, childrenUri].map f) ∧
    s.output.store.sources = s'.output.store.sources := by
  have hlocations : [treeDocument.1, childrenUri].map Location.ofUri = [treeNode, treeChildren] := by decide +kernel
  have hconfigured : tree.configured.type? treeNode = some (.plain "forest" "Tree") := rfl
  have hmapped : tree.Mapped (tree.Reached [treeNode, treeChildren]) := fun l hl he =>
    ⟨_, tree_emits hl he ▸ hconfigured⟩
  obtain ⟨hiff, hequal⟩ := @run_order_independent tree ⟨"/", []⟩ [treeDocument.1, childrenUri]
    [childrenUri, treeDocument.1, childrenUri] (by simp [or_comm]) (hlocations ▸ tree_grounded) (hlocations ▸ hmapped)
    (by
      rw [hlocations]
      intro l m t t' hl hm he he' _ _ hne
      exact absurd ((tree_emits hl he).trans (tree_emits hm he').symm) hne)
  have hrun : (tree.run ⟨"/", []⟩ [treeDocument.1, childrenUri]).map (fun r => r.1.toOption.isSome) = some true := by
    decide +kernel
  obtain ⟨⟨r, s⟩, hs, hr⟩ := Option.map_eq_some_iff.mp hrun
  cases r with
  | error e => cases hr
  | ok types =>
    obtain ⟨types', s', hs'⟩ := hiff.mp ⟨types, s, hs⟩
    exact ⟨types, s, types', s', hs, hs', hequal _ _ _ _ hs hs'⟩

end Setup

end SchemaBeans
