import Mathlib.Data.Finset.Card
import SchemaBeans.Proofs.Generation.Keeps
import SchemaBeans.Proofs.Generator.Plans

/-! Generation comes to an end.

Only finitely many locations name a part of the documents (`Location.places`), and the same may be true of any
other catalog (`Session.Within`). A generation that asks for anything has resolved its location and made it
pending, so there are ever fewer locations left that can be asked for in earnest (`Session.free`); a pending
location is answered by asking for one that is not. The loop that follows a pending location passes none
twice. -/

namespace SchemaBeans

open Java (Source)

theorem Plan.Closes.run {ask : Location → Session → Outcome (Option JavaType)} {plan : Plan} (h : plan.Closes)
    {s t : Session} {a : Option JavaType} {source : Source} (hrun : plan.run ask s = some (.ok (a, source), t)) :
    source.opened = [] := by
  induction plan generalizing s with
  | done type source =>
    cases hrun
    exact h
  | fail e => cases hrun
  | note entry next ih => exact ih h hrun
  | request l next ih =>
    unfold Plan.run at hrun
    split at hrun
    · cases hrun
    · rename_i answer u _
      exact ih answer (h answer) hrun

namespace Session

/-! ### Following a pending location -/

/-- The loop that follows a pending location, without a bound. -/
inductive Follows : List Location → Nat → Location → Session → Except Error Walk → Session → Prop
  | free {seen : List Location} {lists : Nat} {l : Location} {s : Session} : s.isPending l = false →
      Follows seen lists l s (.ok (.stop l lists)) s
  | cycle {seen : List Location} {lists : Nat} {l : Location} {s : Session} : s.isPending l = true → l ∈ seen →
      Follows seen lists l s (.ok .cycle) s
  | lost {seen : List Location} {lists : Nat} {l : Location} {s t : Session} {e : Error} : s.isPending l = true →
      l ∉ seen → s.hop l = (.error e, t) → Follows seen lists l s (.error e) t
  | own {seen : List Location} {lists : Nat} {l : Location} {s t : Session} : s.isPending l = true →
      l ∉ seen → s.hop l = (.ok none, t) → Follows seen lists l s (.ok (.stop l lists)) t
  | reference {seen : List Location} {lists : Nat} {l target : Location} {s t u : Session} {w : Except Error Walk} :
      s.isPending l = true → l ∉ seen → s.hop l = (.ok (some (.reference target)), t) →
      Follows (l :: seen) lists target t w u → Follows seen lists l s w u
  | items {seen : List Location} {lists : Nat} {l target : Location} {s t u : Session} {w : Except Error Walk} :
      s.isPending l = true → l ∉ seen → s.hop l = (.ok (some (.items target)), t) →
      Follows (l :: seen) (lists + 1) target t w u → Follows seen lists l s w u

theorem hop_quiet {s t : Session} {l : Location} {r : Except Error (Option Hop)} (h : s.hop l = (r, t)) :
    Quiet s t := by
  have hq := resolve_quiet s l
  unfold hop at h
  split at h <;> rename_i heq <;> rw [heq] at hq <;> cases h <;> exact hq

theorem length_le_records {s : Session} {seen : List Location} (hn : seen.Nodup)
    (hp : ∀ l ∈ seen, s.isPending l = true) : seen.length ≤ s.records.length := by
  have hsub : seen ⊆ s.records.map (·.1) := by
    intro l hl
    have hr := isPending_iff.mp (hp l hl)
    exact List.mem_map.mpr ⟨_, Table.mem_of_get? hr, rfl⟩
  have hlen := (hn.subperm hsub).length_le
  rwa [List.length_map] at hlen

theorem walk_follows {fuel : Nat} {seen : List Location} {lists : Nat} {l : Location} {s t : Session}
    {w : Except Error Walk} (hn : seen.Nodup) (hp : ∀ m ∈ seen, s.isPending m = true)
    (hfuel : s.records.length < fuel + seen.length) (h : walk fuel seen lists l s = (w, t)) :
    Follows seen lists l s w t := by
  induction fuel generalizing seen lists l s with
  | zero =>
    have hlen := length_le_records hn hp
    omega
  | succ fuel ih =>
    unfold walk at h
    split at h
    · rename_i hl
      cases h
      exact .free (by simpa using hl)
    · rename_i hl
      have hl' : s.isPending l = true := by simpa using hl
      split at h
      · rename_i hmem
        cases h
        exact .cycle hl' hmem
      · rename_i hmem
        -- The loop goes on with one more location that is pending and was not passed before.
        have hgo : ∀ {r u}, s.hop l = (r, u) → (l :: seen).Nodup ∧ (∀ m ∈ l :: seen, u.isPending m = true) ∧
            u.records.length < fuel + (l :: seen).length := by
          intro r u hr
          have hq := hop_quiet hr
          refine ⟨List.nodup_cons.mpr ⟨hmem, hn⟩, fun m hm => ?_, ?_⟩
          · rw [hq.isPending]
            rcases List.mem_cons.mp hm with rfl | hm
            · exact hl'
            · exact hp m hm
          · rw [hq.records, List.length_cons]
            omega
        split at h <;> rename_i heq
        · cases h
          exact .lost hl' hmem heq
        · cases h
          exact .own hl' hmem heq
        · obtain ⟨hn', hp', hf'⟩ := hgo heq
          exact .reference hl' hmem heq (ih hn' hp' hf' h)
        · obtain ⟨hn', hp', hf'⟩ := hgo heq
          exact .items hl' hmem heq (ih hn' hp' hf' h)

/-- The loop ends, and the bound it is run with is never reached. -/
theorem follows_walk (s : Session) (l : Location) :
    Follows [] 0 l s (walk (s.records.length + 1) [] 0 l s).1 (walk (s.records.length + 1) [] 0 l s).2 :=
  walk_follows List.nodup_nil (fun _ hm => by cases hm) (by simp) rfl

/-! ### A larger bound -/

section Extend
variable {ask ask' : Location → Session → Outcome (Option JavaType)}
  (hask : ∀ {l s r}, ask l s = some r → ask' l s = some r)
include hask

theorem run_extend {plan : Plan} {s : Session} {r : Except Error (Option JavaType × Source) × Session}
    (h : plan.run ask s = some r) : plan.run ask' s = some r := by
  induction plan generalizing s with
  | done type source => exact h
  | fail e => exact h
  | note entry next ih => exact ih h
  | request l next ih =>
    unfold Plan.run at h ⊢
    split at h
    · cases h
    · rename_i ha
      rw [hask ha]
      exact ih _ h

theorem pendingType_extend {l : Location} {s : Session} {r : Answer × Session}
    (h : pendingType ask l s = some r) : pendingType ask' l s = some r := by
  unfold pendingType at h ⊢
  split at h
  · exact h
  · exact h
  · rename_i target lists u hw
    by_cases hl : target = l
    · rwa [if_pos hl] at h ⊢
    · rw [if_neg hl] at h ⊢
      by_cases hp : u.isPending target = true
      · simpa only [hp, if_true] using h
      · simp only [hp, Bool.false_eq_true, if_false] at h ⊢
        cases ha : ask target u with
        | none => rw [ha] at h; cases h
        | some answer => rw [ha] at h; rwa [hask ha]

theorem produce_extend {l : Location} {requested : JavaType} {s : Session} {r : Answer × Session}
    (h : produce ask l requested s = some r) : produce ask' l requested s = some r := by
  have hperform : ∀ {generator task u}, perform ask generator task u = some r →
      perform ask' generator task u = some r := by
    intro generator task u h
    unfold perform at h ⊢
    cases hrun : (generator task).run ask u with
    | none => rw [hrun] at h; cases h
    | some ended => rw [hrun] at h; rwa [run_extend hask hrun]
  -- Only a reference and a generator ask for anything; the other branches do not depend on the answers.
  rw [produce_eq] at h ⊢
  by_cases hg : s.isGiven requested = true
  · rwa [if_pos hg] at h ⊢
  · rw [if_neg hg] at h ⊢
    split at h
    · exact h
    · rename_i node _
      split at h
      · exact h
      · exact hask h
      · by_cases ho : (!node.isObject) = true
        · rwa [if_pos ho] at h ⊢
        · rw [if_neg ho] at h ⊢
          split at h
          · exact h
          · exact h
          · split at h
            · exact h
            · exact hperform h

theorem respond_extend {l : Location} {s : Session} {r : Answer × Session} (h : respond ask l s = some r) :
    respond ask' l s = some r := by
  unfold respond at h ⊢
  split at h
  · exact h
  · exact h
  · exact pendingType_extend hask h
  · rcases hb : s.bindType l with ⟨bound, isNew, t⟩
    simp only [hb] at h ⊢
    cases hp : produce ask l bound (t.setRecord l .pending) with
    | none => rw [hp] at h; cases h
    | some ended => rw [hp] at h; rwa [produce_extend hask hp]

end Extend

/-- What was answered within a bound is answered in the same way within every larger one. -/
theorem generateWithin_extend {n m : Nat} {l : Location} {s : Session} {r : Answer × Session} (hnm : n ≤ m)
    (h : generateWithin n l s = some r) : generateWithin m l s = some r := by
  induction n generalizing m l s r with
  | zero => cases h
  | succ n ih =>
    obtain ⟨m, rfl⟩ : ∃ k, m = k + 1 := ⟨m - 1, by omega⟩
    unfold generateWithin at h ⊢
    split at h
    · cases h
    · rename_i hr
      rw [respond_extend (fun ha => ih (by omega) ha) hr]
      exact h

/-! ### A bound that suffices -/

/-- Whatever the session has read or can read lies at one of the places. -/
structure Within (places : Finset Location) (s : Session) : Prop where
  loaded : ∀ {files uri document pointer node}, (s.catalog.load files uri).result = .ok (some document) →
    document.pointer? pointer = some node → ⟨uri, pointer⟩ ∈ places
  found : ∀ {uri document pointer node}, s.documents.found.get? uri = some document →
    document.pointer? pointer = some node → ⟨uri, pointer⟩ ∈ places

/-- The places that are not pending. -/
def free (places : Finset Location) (s : Session) : Finset Location :=
  places.filter fun l => s.isPending l = false

section Free
variable {places : Finset Location} {documents : Table Uri Json} {s t : Session} {l : Location}

theorem Loads.within (h : Loads s t) (hs : s.Within places) : t.Within places where
  loaded := fun hload => by
    rw [h.catalog] at hload
    exact hs.loaded hload
  found := fun ht hnode => by
    rcases h.found ht with hfound | ⟨files, hload⟩
    · exact hs.found hfound hnode
    · exact hs.loaded hload hnode

theorem Within.resolve {node : Json} (h : s.Within places) (hn : (s.resolve l).1 = .ok node) : l ∈ places := by
  have hdocument : ∃ document, (s.documents.document s.catalog s.files l).1 = .ok document ∧
      document.pointer? l.pointer = some node := by
    simp only [Session.resolve, Documents.resolve] at hn
    split at hn
    · cases hn
    · rename_i document _ _ hd
      split at hn <;> rename_i hp <;> cases hn
      exact ⟨document, by rw [hd], hp⟩
  obtain ⟨document, hd, hp⟩ := hdocument
  unfold Documents.document at hd
  split at hd
  · rename_i hfound
    cases hd
    exact h.found hfound hp
  · split at hd <;> rename_i hload <;> cases hd
    exact h.loaded (by rw [hload]) hp

theorem Over.within (ho : s.Over documents) : s.Within (Location.places documents).toFinset := by
  have hplace : ∀ {uri document pointer node}, documents.get? uri = some document →
      document.pointer? pointer = some node → (⟨uri, pointer⟩ : Location) ∈ (Location.places documents).toFinset := by
    intro uri document pointer node hd hp
    have hnode : (⟨uri, pointer⟩ : Location).node? documents = some node := by
      rw [Location.node?, hd]
      exact hp
    exact List.mem_toFinset.mpr (Location.mem_places hnode)
  refine ⟨fun {files uri document pointer node} hload hp => ?_, fun hfound hp => hplace (ho.found _ _ hfound) hp⟩
  rw [ho.catalog] at hload
  simp only [Catalog.preloaded] at hload
  split at hload <;> rename_i hd <;> cases hload
  exact hplace hd hp

theorem mem_free : l ∈ s.free places ↔ l ∈ places ∧ s.isPending l = false := Finset.mem_filter

theorem Keeps.free_le (h : Keeps s t) (places : Finset Location) : (t.free places).card ≤ (s.free places).card := by
  refine Finset.card_le_card fun m hm => ?_
  obtain ⟨hmem, hp⟩ := mem_free.mp hm
  refine mem_free.mpr ⟨hmem, Bool.eq_false_iff.mpr fun hp' => ?_⟩
  rw [isPending_iff.mpr (h.record (isPending_iff.mp hp'))] at hp
  cases hp

theorem free_setRecord_lt (hl : l ∈ places) (hnew : s.isPending l = false) :
    ((s.setRecord l .pending).free places).card < (s.free places).card := by
  refine Finset.card_lt_card (Finset.ssubset_iff_subset_ne.mpr ⟨fun m hm => ?_, fun heq => ?_⟩)
  · obtain ⟨hmem, hp⟩ := mem_free.mp hm
    have hne : m ≠ l := by
      rintro rfl
      rw [isPending_iff.mpr record?_setRecord_self] at hp
      cases hp
    rw [isPending, record?_setRecord_of_ne hne] at hp
    exact mem_free.mpr ⟨hmem, hp⟩
  · have hmem := mem_free.mpr ⟨hl, hnew⟩
    rw [← heq] at hmem
    have hp := (mem_free.mp hmem).2
    rw [isPending_iff.mpr record?_setRecord_self] at hp
    cases hp

theorem free_le_extent (ho : s.Over documents) :
    (s.free (Location.places documents).toFinset).card ≤ s.catalog.extent := by
  calc (s.free (Location.places documents).toFinset).card
      ≤ (Location.places documents).toFinset.card := Finset.card_filter_le _ _
    _ ≤ (Location.places documents).length := List.toFinset_card_le _
    _ = s.catalog.extent := by rw [Location.length_places, ho.catalog]

theorem Binds.free_eq {bound : JavaType} {isNew : Bool} (h : Binds s l bound isNew t) :
    t.free places = s.free places := by
  have hp : ∀ m, t.isPending m = s.isPending m := fun m => by rw [isPending, isPending, h.record?]
  simp only [free, hp]

end Free

section Suffices
variable {places : Finset Location} {ask : Location → Session → Outcome (Option JavaType)}
  (hkeep : ∀ {m u a v}, ask m u = some (a, v) → Keeps u v)
include hkeep

theorem run_isSome (plan : Plan) {s : Session} (hask : ∀ m u, Keeps s u → (ask m u).isSome) :
    (plan.run ask s).isSome := by
  induction plan generalizing s with
  | done type source => rfl
  | fail e => rfl
  | note entry next ih => exact ih fun m u hu => hask m u ((Keeps.of_quiet (Quiet.note s entry)).trans hu)
  | request l next ih =>
    obtain ⟨⟨a, t⟩, ha⟩ := Option.isSome_iff_exists.mp (hask l s (Keeps.refl s))
    rw [Plan.run, ha]
    exact ih a fun m u hu => hask m u ((hkeep ha).trans hu)

theorem perform_isSome {generator : Generator} {task : Task} {s : Session} (hg : (generator task).Closes)
    (hask : ∀ m u, Keeps s u → (ask m u).isSome) : (perform ask generator task s).isSome := by
  obtain ⟨⟨r, t⟩, hrun⟩ := Option.isSome_iff_exists.mp (run_isSome hkeep (generator task) hask)
  rw [perform, hrun]
  cases r with
  | error e => rfl
  | ok ended =>
    obtain ⟨a, source⟩ := ended
    dsimp only
    split
    · rfl
    · rw [Source.finish_of_closed (hg.run hrun)]
      dsimp only
      split <;> rfl

theorem produce_isSome {l : Location} {requested : JavaType} {s : Session} (hw : s.Within places)
    (hg : s.generators.Closing) (hask : l ∈ places → ∀ m u, Keeps s u → (ask m u).isSome) :
    (produce ask l requested s).isSome := by
  rw [produce_eq]
  split
  · rfl
  · split
    · rfl
    · rename_i node hn
      -- A location with a node is one of the places.
      have hplace : l ∈ places := hw.resolve hn
      split
      · rfl
      · exact hask hplace _ _ (Keeps.of_quiet (redirected_quiet _ _ _))
      · split
        · rfl
        · split
          · rfl
          · rfl
          · rename_i kind hk
            split
            · rfl
            · rename_i generator hgen
              exact perform_isSome hkeep (hg hgen hk) fun m u hu =>
                hask hplace m u ((Keeps.of_quiet (opened_quiet _ _ _)).trans hu)

end Suffices

theorem pendingType_isSome {ask : Location → Session → Outcome (Option JavaType)} {l : Location} {s : Session}
    (hask : ∀ m u, Quiet s u → u.isPending m = false → (ask m u).isSome) : (pendingType ask l s).isSome := by
  unfold pendingType
  split
  · rfl
  · rfl
  · rename_i target lists u hw
    split
    · rfl
    · by_cases hp : u.isPending target = true
      · simp only [hp, if_true]
        cases u.mappings.type? target <;> rfl
      · simp only [hp, Bool.false_eq_true, if_false]
        obtain ⟨⟨a, t⟩, ha⟩ := Option.isSome_iff_exists.mp
          (hask target u (walk_quiet hw) (Bool.eq_false_iff.mpr hp))
        rw [ha]
        rcases a with _ | _ | _ <;> rfl

/-- Between two locations that become pending at most one is asked for that is pending already, so twice the
    number of free places suffices. -/
theorem generateWithin_isSome {places : Finset Location} {n : Nat} {l : Location} {s : Session}
    (hw : s.Within places) (hg : s.generators.Closing)
    (hn : 2 * (s.free places).card + (if s.isPending l then 2 else 1) ≤ n) : (generateWithin n l s).isSome := by
  induction n generalizing l s with
  | zero =>
    split at hn <;> omega
  | succ n ih =>
    suffices hr : (respond (generateWithin n) l s).isSome by
      obtain ⟨⟨a, t⟩, hr⟩ := Option.isSome_iff_exists.mp hr
      rw [generateWithin, hr]
      rfl
    unfold respond
    split
    · rfl
    · rfl
    · -- A pending location leads to one that is not pending.
      rename_i hr
      refine pendingType_isSome fun m u hu hm => ?_
      have hk := (Keeps.of_quiet (Quiet.say s _ _)).trans (Keeps.of_quiet hu)
      have hle := hk.free_le places
      rw [if_pos (isPending_iff.mpr hr)] at hn
      refine ih (hk.loads.within hw) (hk.generators ▸ hg) ?_
      rw [hm, if_neg Bool.false_ne_true]
      omega
    · rename_i hr
      rcases hb : s.bindType l with ⟨bound, isNew, t⟩
      have binds := bindType_binds hb
      have hnew : s.isPending l = false := by
        rw [isPending, hr]
        rfl
      have hsame := binds.sameSetup .pending
      have hmarked : (t.setRecord l .pending).Within places := hsame.loads.within hw
      have hgen : (t.setRecord l .pending).generators.Closing := hsame.generators ▸ hg
      have hsome : (produce (generateWithin n) l bound (t.setRecord l .pending)).isSome := by
        refine produce_isSome (fun h => generateWithin_keeps h) hmarked hgen fun hplace m u hu => ?_
        -- What it asks for finds one place less that is free.
        have hlt : ((t.setRecord l .pending).free places).card < (s.free places).card := by
          have hnew' : t.isPending l = false := by rw [isPending, binds.record?, ← isPending, hnew]
          rw [← binds.free_eq]
          exact free_setRecord_lt hplace hnew'
        have hle := hu.free_le places
        refine ih (hu.loads.within hmarked) (hu.generators ▸ hgen) ?_
        split <;> split at hn <;> omega
      obtain ⟨⟨a, u⟩, hu⟩ := Option.isSome_iff_exists.mp hsome
      simp only [hu]
      cases a <;> rfl

/-- The bound that is computed from the documents suffices. -/
theorem generate_isSome {documents : Table Uri Json} {s : Session} (ho : s.Over documents)
    (hg : s.generators = .standard) (l : Location) : (s.generate l).isSome := by
  refine generateWithin_isSome ho.within (hg ▸ Generators.standard_closing) ?_
  have hle := free_le_extent ho
  rw [depth]
  split <;> omega

/-- Over preloaded documents, with the built-in generators and in every state, a request comes to an end: it
    is answered within the bound computed from the documents, and in the same way within any larger bound,
    and leaves a state of which the same is true. While it runs, and at any other time, the loop that follows
    a pending location ends. -/
theorem generate_terminates {documents : Table Uri Json} {s : Session} (ho : s.Over documents)
    (hg : s.generators = .standard) (l : Location) :
    (∃ a t, s.generate l = some (a, t) ∧ (∀ fuel, s.depth ≤ fuel → generateWithin fuel l s = some (a, t)) ∧
      t.Over documents ∧ t.generators = .standard ∧ ∀ m, t.isPending m = s.isPending m) ∧
    ∀ (m : Location) (u : Session), Follows [] 0 m u (walk (u.records.length + 1) [] 0 m u).1
      (walk (u.records.length + 1) [] 0 m u).2 := by
  refine ⟨?_, fun m u => follows_walk u m⟩
  obtain ⟨⟨a, t⟩, ha⟩ := Option.isSome_iff_exists.mp (generate_isSome ho hg l)
  have hk := generateWithin_keeps ha
  refine ⟨a, t, ha, fun fuel hf => generateWithin_extend hf ha, hk.documents _ ho, hk.generators.trans hg, fun m => ?_⟩
  rw [Bool.eq_iff_iff, isPending_iff, isPending_iff]
  exact ⟨hk.pending, hk.record⟩

/-- The document of an array whose items refer to the array. -/
def loopedDocument : Uri × Json :=
  (⟨"urn", "", none, none, none, .rootless "loop", none, none⟩,
    .object [("type", .string "array"), ("items", .object [("$ref", .string "#")])])

def looped : Session := Session.new (.preloaded [loopedDocument]) (.memory .empty []) ⟨"/", []⟩

/-- A request for an array of itself, and then one for the reference among its items. -/
theorem generate_terminates_looped : looped.Over [loopedDocument] ∧ ∃ a t b u,
    looped.generate ⟨loopedDocument.1, ""⟩ = some (a, t) ∧ t.generate ⟨loopedDocument.1, "/items"⟩ = some (b, u) ∧
    ∀ m, u.isPending m = false := by
  have ho : looped.Over [loopedDocument] := Over.new
  obtain ⟨⟨a, t, ha, -, ho', hg', hp⟩, -⟩ := generate_terminates ho rfl ⟨loopedDocument.1, ""⟩
  obtain ⟨⟨b, u, hb, -, -, -, hp'⟩, -⟩ := generate_terminates ho' hg' ⟨loopedDocument.1, "/items"⟩
  exact ⟨ho, a, t, b, u, ha, hb, fun m => (hp' m).trans (hp m)⟩

end Session

end SchemaBeans
