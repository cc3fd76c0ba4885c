import SchemaBeans.Proofs.Generation.Invariants

/-! Names that are given back.

A type is found for a location before it is known what the location is, and its name is given back if the location
gets another type. Every name in use is accounted for: it is that of a mapping that was added, or of a type that is
bound to one location and no other (`Session.Holds`). Main statement: a location that was asked for in vain before
keeps the name it had then, whatever type it gets, and all others give back what is not theirs
(`Session.names_given_back_iff`). -/

namespace SchemaBeans

open SchemaBeans.Numbering (candidate)

/-! ### Mappings that were added -/

/-- The names of the types in a list of mappings. -/
def Mapping.names (mappings : List Mapping) : List (String × String) :=
  mappings.filterMap fun mapping => mapping.type.map JavaType.identity

namespace Mappings

/-- The store that results from adding mappings one after the other. -/
def ofList (mappings : List Mapping) : Mappings := mappings.foldl put .empty

theorem type?_put_self (store : Mappings) (l : Location) (type : Option JavaType) :
    (store.put ⟨l, type⟩).type? l = type := by
  simp [type?, put]

theorem type?_put_of_ne (store : Mappings) {l m : Location} (type : Option JavaType) (h : m ≠ l) :
    (store.put ⟨l, type⟩).type? m = store.type? m := by
  simp only [type?, put, Table.get?_put_of_ne _ _ h]

theorem ofList_concat (mappings : List Mapping) (mapping : Mapping) :
    ofList (mappings ++ [mapping]) = (ofList mappings).put mapping := by
  simp [ofList]

theorem mem_names_of_type? {mappings : List Mapping} {l : Location} {x : JavaType}
    (h : (ofList mappings).type? l = some x) : x.identity ∈ Mapping.names mappings := by
  induction mappings using List.reverseRecOn with
  | nil => cases h
  | append_singleton mappings mapping ih =>
    obtain ⟨target, type⟩ := mapping
    rw [ofList_concat] at h
    rw [Mapping.names, List.filterMap_append, List.mem_append]
    by_cases hl : l = target
    · subst hl
      rw [type?_put_self] at h
      subst h
      exact Or.inr (by simp)
    · rw [type?_put_of_ne _ _ hl] at h
      exact Or.inl (ih h)

end Mappings

namespace Session
variable {mappings : List Mapping} {s t u : Session} {l m : Location} {x y bound : JavaType} {isNew : Bool}
  {a : Option JavaType}

/-! ### Names in use -/

/-- A location to which no type was mapped. -/
def Unmapped (mappings : List Mapping) (l : Location) : Prop := (Mappings.ofList mappings).type? l = none

/-- The names in use are those of the mappings that were added and of the types that are bound to locations, and a type
    that was found for a location shares its name with none of them. -/
structure Holds (mappings : List Mapping) (s : Session) : Prop where
  mapped : ∀ {l x}, (Mappings.ofList mappings).type? l = some x → s.mappings.type? l = some x
  found : ∀ {l x}, Unmapped mappings l → s.mappings.type? l = some x →
    ∃ package k, x = .plain package (candidate (typeName l) "" k)
  taken : ∀ {l x}, s.mappings.type? l = some x → x.identity ∈ s.names.taken
  reserved : ∀ {n}, n ∈ Mapping.names mappings → n ∈ s.names.taken
  held : ∀ {n}, n ∈ s.names.taken → n ∈ Mapping.names mappings ∨ ∃ l x, s.mappings.type? l = some x ∧ x.identity = n
  sole : ∀ {l m x y}, Unmapped mappings l → s.mappings.type? l = some x → s.mappings.type? m = some y →
    x.identity = y.identity → l = m
  fresh : ∀ {l x}, Unmapped mappings l → s.mappings.type? l = some x → x.identity ∉ Mapping.names mappings

namespace Holds

theorem congr (h : Holds mappings s) (hm : t.mappings = s.mappings) (hn : t.names = s.names) : Holds mappings t := by
  obtain ⟨mapped, found, taken, reserved, held, sole, fresh⟩ := h
  rw [← hm] at mapped found taken held sole fresh
  rw [← hn] at taken reserved held
  exact ⟨mapped, found, taken, reserved, held, sole, fresh⟩

theorem plain (h : Holds mappings s) (hl : Unmapped mappings l) (hx : s.mappings.type? l = some x) : x.arguments = [] := by
  obtain ⟨package, k, rfl⟩ := h.found hl hx
  rfl

theorem unmapped (h : Holds mappings s) (hl : s.mappings.type? l = none) : Unmapped mappings l := by
  cases hc : (Mappings.ofList mappings).type? l with
  | none => exact hc
  | some x =>
    rw [h.mapped hc] at hl
    cases hl

theorem bind (h : Holds mappings s) (hb : Binds s l bound isNew t) : Holds mappings t := by
  have hself := hb.type?_self
  have hoff : ∀ {m}, m ≠ l → t.mappings.type? m = s.mappings.type? m := hb.type?_of_ne
  cases hb with
  | held _ => exact h
  | found hnone _ hunique =>
    have htaken := fun {n} => Names.unique_taken (n := n) hunique
    have hfree := Names.unique_free hunique
    have hl := h.unmapped hnone
    have hcases : ∀ {m x}, Mappings.type? (s.mappings.put ⟨l, some bound⟩) m = some x →
        (m = l ∧ x = bound) ∨ (m ≠ l ∧ s.mappings.type? m = some x) := by
      intro m x hm
      by_cases hml : m = l
      · subst hml
        exact Or.inl ⟨rfl, Option.some.inj (hm.symm.trans hself)⟩
      · exact Or.inr ⟨hml, (hoff hml).symm.trans hm⟩
    refine ⟨fun {m x} hm => ?_, fun {m x} hm hx => ?_, fun hx => htaken.mpr ?_, fun hn => htaken.mpr (Or.inr (h.reserved hn)),
      fun hn => ?_, fun {m p x y} hm hx hy heq => ?_, fun hm hx => ?_⟩
    · have hml : m ≠ l := by
        rintro rfl
        rw [hl] at hm
        cases hm
      exact (hoff hml).trans (h.mapped hm)
    · rcases hcases hx with ⟨rfl, rfl⟩ | ⟨-, hx⟩
      · obtain ⟨k, hk, -⟩ := Names.unique_numbered hunique
        exact ⟨_, k, hk⟩
      · exact h.found hm hx
    · rcases hcases hx with ⟨-, rfl⟩ | ⟨-, hx⟩
      · exact Or.inl rfl
      · exact Or.inr (h.taken hx)
    · rcases htaken.mp hn with rfl | hn
      · exact Or.inr ⟨l, bound, hself, rfl⟩
      · obtain hn | ⟨m, x, hx, hxn⟩ := h.held hn
        · exact Or.inl hn
        · have hml : m ≠ l := by
            rintro rfl
            rw [hnone] at hx
            cases hx
          exact Or.inr ⟨m, x, (hoff hml).trans hx, hxn⟩
    -- The name that was found was free, so it is shared with nothing that was bound before.
    · rcases hcases hx with ⟨rfl, rfl⟩ | ⟨-, hx'⟩ <;> rcases hcases hy with ⟨rfl, rfl⟩ | ⟨-, hy'⟩
      · rfl
      · exact absurd (heq ▸ h.taken hy') hfree
      · exact absurd (heq ▸ h.taken hx') hfree
      · exact h.sole hm hx' hy' heq
    · rcases hcases hx with ⟨-, rfl⟩ | ⟨-, hx⟩
      · exact fun hn => hfree (h.reserved hn)
      · exact h.fresh hm hx

/-- A name that is given back was that of one location and of no mapping, so all others stay in use. -/
theorem release (h : Holds mappings s) (hl : Unmapped mappings l) (hbound : s.mappings.type? l = some bound)
    (hm : t.mappings = s.mappings.put ⟨l, none⟩) (hn : t.names = s.names.release bound) : Holds mappings t := by
  have hcases : ∀ {m x}, t.mappings.type? m = some x → m ≠ l ∧ s.mappings.type? m = some x := by
    intro m x hx
    rw [hm] at hx
    by_cases hml : m = l
    · subst hml
      rw [Mappings.type?_put_self] at hx
      cases hx
    · rw [Mappings.type?_put_of_ne _ _ hml] at hx
      exact ⟨hml, hx⟩
  have hkeep : ∀ {m x}, m ≠ l → s.mappings.type? m = some x → t.mappings.type? m = some x := by
    intro m x hml hx
    rw [hm, Mappings.type?_put_of_ne _ _ hml]
    exact hx
  have htaken : ∀ {n}, n ∈ t.names.taken ↔ n ∈ s.names.taken ∧ n ≠ bound.identity := by
    intro n
    rw [hn]
    exact Names.mem_release
  refine ⟨fun {m x} hx => ?_, fun hu hx => h.found hu (hcases hx).2, fun {m x} hx => ?_, fun hr => ?_, fun {n} hu => ?_,
    fun hu hx hy => h.sole hu (hcases hx).2 (hcases hy).2, fun hu hx => h.fresh hu (hcases hx).2⟩
  · have hml : m ≠ l := by
      rintro rfl
      rw [hl] at hx
      cases hx
    exact hkeep hml (h.mapped hx)
  · obtain ⟨hml, hx⟩ := hcases hx
    -- Nothing else has the name that is given back, neither a location nor a mapping.
    exact htaken.mpr ⟨h.taken hx, fun heq => hml (h.sole hl hbound hx heq.symm).symm⟩
  · refine htaken.mpr ⟨h.reserved hr, ?_⟩
    rintro rfl
    exact h.fresh hl hbound hr
  · obtain ⟨hold, hne⟩ := htaken.mp hu
    obtain hr | ⟨m, x, hx, rfl⟩ := h.held hold
    · exact Or.inl hr
    · have hml : m ≠ l := by
        rintro rfl
        rw [hbound] at hx
        cases hx
        exact hne rfl
      exact Or.inr ⟨m, x, hkeep hml hx, rfl⟩

theorem settle (h : Holds mappings s) (hl : isNew = true → Unmapped mappings l) (hbound : s.mappings.type? l = some bound) :
    Holds mappings (s.settle l bound isNew a) := by
  unfold Session.settle
  split
  · rename_i hrelease
    exact h.release (hl (Bool.and_eq_true_iff.mp hrelease).1) hbound rfl rfl
  · exact h.congr rfl rfl

end Holds

/-! ### Names and records -/

/-- The names in use are accounted for by records: a type that was found for a location stays bound to it after a
    failure, and is the type of the location otherwise. -/
structure Accounted (mappings : List Mapping) (s : Session) : Prop extends Holds mappings s where
  retried : ∀ {l x}, Unmapped mappings l → s.record? l = none → s.mappings.type? l = some x → .erased l ∈ s.journal
  kept : ∀ {l}, Unmapped mappings l → .erased l ∈ s.journal → ∃ x, s.mappings.type? l = some x
  settled : ∀ {l a x}, Unmapped mappings l → s.record? l = some (.resolved a) → .erased l ∉ s.journal →
    s.mappings.type? l = some x → a = some x
  assumed : ∀ {l x}, s.record? l = some (.failed x) → s.mappings.type? l = some x

namespace Accounted

theorem congr (h : Accounted mappings s) (hm : t.mappings = s.mappings) (hn : t.names = s.names)
    (hr : t.records = s.records) (hj : ∀ l, .erased l ∈ t.journal ↔ .erased l ∈ s.journal) : Accounted mappings t := by
  have hrecord : ∀ l, t.record? l = s.record? l := fun l => by rw [record?, record?, hr]
  refine ⟨h.toHolds.congr hm hn, fun hu hl hx => ?_, fun hu he => ?_, fun hu hl he hx => ?_, fun hl => ?_⟩
  · rw [hrecord] at hl
    rw [hm] at hx
    exact (hj _).mpr (h.retried hu hl hx)
  · rw [hm]
    exact h.kept hu ((hj _).mp he)
  · rw [hrecord] at hl
    rw [hm] at hx
    exact h.settled hu hl (fun he' => he ((hj _).mpr he')) hx
  · rw [hrecord] at hl
    rw [hm]
    exact h.assumed hl

theorem quiet (h : Accounted mappings s) (hq : Quiet s t) : Accounted mappings t :=
  h.congr hq.mappings hq.names hq.records fun _ => by rw [hq.journal]

theorem reply (h : Accounted mappings s) (r : Answer) : Accounted mappings (s.reply l r) :=
  h.congr rfl rfl rfl fun m => by simp [Session.reply]

theorem write {text : String} {r : Except Error Unit} (h : Accounted mappings s) (hw : s.write l x text = (r, t)) :
    Accounted mappings t := by
  rw [write_frame hw]
  exact h.congr rfl rfl rfl fun _ => Iff.rfl

theorem mark (h : Accounted mappings s) (hnew : s.record? l = none) (hb : Binds s l bound isNew t) :
    Accounted mappings (t.setRecord l .pending) := by
  have hjournal : ∀ {m}, .erased m ∈ (t.setRecord l .pending).journal ↔ .erased m ∈ s.journal := by
    intro m
    rw [hb.journal_mark]
    simp
  have hother : ∀ {m r}, (t.setRecord l .pending).record? m = r → r ≠ some .pending → m ≠ l ∧ s.record? m = r := by
    intro m r hr hne
    have hml : m ≠ l := by
      rintro rfl
      exact hne (hr.symm.trans record?_setRecord_self)
    exact ⟨hml, (hb.record?_mark_of_ne hml).symm.trans hr⟩
  have htype : ∀ {m}, m ≠ l → (t.setRecord l .pending).mappings.type? m = s.mappings.type? m := hb.type?_of_ne
  refine ⟨(h.toHolds.bind hb).congr rfl rfl, fun hu hr hx => ?_, fun {m} hu he => ?_, fun hu hr he hx => ?_, fun hr => ?_⟩
  · obtain ⟨hml, hr⟩ := hother hr (by simp)
    rw [htype hml] at hx
    exact hjournal.mpr (h.retried hu hr hx)
  · by_cases hml : m = l
    · subst hml
      exact ⟨bound, hb.type?_self⟩
    · rw [htype hml]
      exact h.kept hu (hjournal.mp he)
  · obtain ⟨hml, hr⟩ := hother hr (by simp)
    rw [htype hml] at hx
    exact h.settled hu hr (fun he' => he (hjournal.mpr he')) hx
  · obtain ⟨hml, hr⟩ := hother hr (by simp)
    rw [htype hml]
    exact h.assumed hr

section Ends
variable {n : Nat} {r : Answer} (hs : Accounted mappings s) (hnew : s.record? l = none) (hb : Binds s l bound isNew t)
  (hp : Produces (generateWithin n) l bound (t.setRecord l .pending) r u) (hu : Accounted mappings u)

include hb hp in
theorem type?_produced : u.mappings.type? l = some bound :=
  (hp.along.type record?_setRecord_self).trans hb.type?_self

include hs hb in
/-- A location for which a type is found now was never asked for in vain. -/
theorem not_erased (hisNew : isNew = true) (hl : Unmapped mappings l) : .erased l ∉ s.journal := by
  intro he
  obtain ⟨x, hx⟩ := hs.kept hl he
  cases hb with
  | held _ => cases hisNew
  | found hnone _ _ =>
    rw [hnone] at hx
    cases hx

include hs hnew hb hp hu

theorem settle (hr : r = .ok a) : Accounted mappings (u.settle l bound isNew a) := by
  subst hr
  have hbound := type?_produced hb hp
  have hunmapped : isNew = true → Unmapped mappings l := by
    intro hisNew
    cases hb with
    | held _ => cases hisNew
    | found hnone _ _ => exact hs.unmapped hnone
  have hjournal : ∀ {m}, .erased m ∈ (u.settle l bound isNew a).journal ↔ .erased m ∈ u.journal := by
    intro m
    rw [journal_settle]
    simp
  refine ⟨hu.toHolds.settle hunmapped hbound, fun {m x} hm hr hx => ?_, fun {m} hm he => ?_, fun {m b x} hm hr he hx => ?_,
    fun {m x} hr => ?_⟩
  · have hml : m ≠ l := by
      rintro rfl
      rw [record?_settle_self] at hr
      cases hr
    rw [record?_settle_of_ne hml] at hr
    rw [type?_settle_of_ne hml] at hx
    exact hjournal.mpr (hu.retried hm hr hx)
  · by_cases hml : m = l
    · subst hml
      rw [type?_settle_self, hbound]
      -- Only a name that was found now is given back, and then there was no failure before.
      have hkeep : isNew ≠ true := by
        intro hisNew
        have hpast := hp.along.erased record?_setRecord_self (hjournal.mp he)
        rw [hb.journal_mark] at hpast
        exact hs.not_erased hb hisNew hm ((List.mem_cons.mp hpast).resolve_left (by simp))
      exact ⟨bound, by simp [hkeep]⟩
    · rw [type?_settle_of_ne hml]
      exact hu.kept hm (hjournal.mp he)
  · by_cases hml : m = l
    · subst hml
      cases record?_settle_self.symm.trans hr
      rw [type?_settle_self, hbound] at hx
      -- A type that was bound before is left of a failure, and that is still in the journal.
      cases hb with
      | held hheld =>
        have hpast := hs.retried hm hnew hheld
        exact absurd (hjournal.mpr (hp.along.journal.subset (List.mem_cons_of_mem _ hpast))) he
      | found _ _ _ =>
        by_contra hne
        have hrelease : a ≠ some bound := by
          rintro rfl
          simp_all
        simp [hrelease] at hx
    · rw [record?_settle_of_ne hml] at hr
      rw [type?_settle_of_ne hml] at hx
      exact hu.settled hm hr (fun he' => he (hjournal.mpr he')) hx
  · have hml : m ≠ l := by
      rintro rfl
      rw [record?_settle_self] at hr
      cases hr
    rw [record?_settle_of_ne hml] at hr
    rw [type?_settle_of_ne hml]
    exact hu.assumed hr

omit hs hnew in
theorem assume : Accounted mappings (u.setRecord l (.failed bound)) := by
  have hbound := type?_produced hb hp
  have hjournal : ∀ {m}, .erased m ∈ (u.setRecord l (.failed bound)).journal ↔ .erased m ∈ u.journal := by
    intro m
    simp [setRecord]
  have hother : ∀ {m r}, (u.setRecord l (.failed bound)).record? m = r → r ≠ some (.failed bound) →
      u.record? m = r := by
    intro m r hr hne
    have hml : m ≠ l := by
      rintro rfl
      exact hne (hr.symm.trans record?_setRecord_self)
    exact (record?_setRecord_of_ne hml).symm.trans hr
  refine ⟨hu.toHolds.congr rfl rfl, fun hm hr hx => ?_, fun hm he => hu.kept hm (hjournal.mp he),
    fun hm hr he hx => ?_, fun {m x} hr => ?_⟩
  · exact hjournal.mpr (hu.retried hm (hother hr (by simp)) hx)
  · exact hu.settled hm (hother hr (by simp)) (fun he' => he (hjournal.mpr he')) hx
  · by_cases hml : m = l
    · subst hml
      cases record?_setRecord_self.symm.trans hr
      exact hbound
    · rw [record?_setRecord_of_ne hml] at hr
      exact hu.assumed hr

omit hs hnew in
theorem forget : Accounted mappings (u.eraseRecord l) := by
  have hbound := type?_produced hb hp
  have hjournal : ∀ {m}, .erased m ∈ (u.eraseRecord l).journal ↔ m = l ∨ .erased m ∈ u.journal := by
    intro m
    simp [eraseRecord]
  have hother : ∀ {m r}, (u.eraseRecord l).record? m = some r → u.record? m = some r := by
    intro m r hr
    have hml : m ≠ l := by
      rintro rfl
      rw [record?_eraseRecord_self] at hr
      cases hr
    exact (record?_eraseRecord_of_ne hml).symm.trans hr
  refine ⟨hu.toHolds.congr rfl rfl, fun {m x} hm hr hx => ?_, fun {m} hm he => ?_, fun hm hr he hx => ?_,
    fun hr => hu.assumed (hother hr)⟩
  · by_cases hml : m = l
    · exact hjournal.mpr (Or.inl hml)
    · rw [record?_eraseRecord_of_ne hml] at hr
      exact hjournal.mpr (Or.inr (hu.retried hm hr hx))
  · rcases hjournal.mp he with rfl | he
    · exact ⟨bound, hbound⟩
    · exact hu.kept hm he
  · exact hu.settled hm (hother hr) (fun he' => he (hjournal.mpr (Or.inr he'))) hx

end Ends

theorem isKept : Kept (fun _ => True) (Accounted mappings) where
  quiet := fun h hq => h.quiet hq
  mark := fun h hnew _ => h.mark hnew (marked_binds _ _)
  write := fun h _ _ _ _ _ _ hw => h.write hw
  settle := fun h hnew hb _ hp hu _ => settle h hnew hb hp hu rfl
  assume := fun _ _ hb hp hu _ => assume hb hp hu
  forget := fun _ _ hb hp hu _ => forget hb hp hu
  reply := fun h => h.reply _

theorem start (hm : s.mappings = Mappings.ofList mappings) (hn : ∀ n, n ∈ s.names.taken ↔ n ∈ Mapping.names mappings)
    (hr : ∀ l, s.record? l = none) (hj : s.journal = []) : Accounted mappings s := by
  have hvoid : ∀ {l x}, Unmapped mappings l → s.mappings.type? l ≠ some x := by
    intro l x hu hx
    rw [hm, hu] at hx
    cases hx
  have hrecord : ∀ {l r}, s.record? l ≠ some r := by
    intro l r hrec
    rw [hr] at hrec
    cases hrec
  have hmapped : ∀ {l x}, (Mappings.ofList mappings).type? l = some x → s.mappings.type? l = some x := by
    intro l x hx
    rw [hm]
    exact hx
  have htaken : ∀ {l x}, s.mappings.type? l = some x → x.identity ∈ s.names.taken := by
    intro l x hx
    rw [hm] at hx
    exact (hn _).mpr (Mappings.mem_names_of_type? hx)
  refine ⟨⟨hmapped, fun hu hx => absurd hx (hvoid hu), htaken, fun h => (hn _).mpr h, fun h => Or.inl ((hn _).mp h),
    fun hu hx => absurd hx (hvoid hu), fun hu hx => absurd hx (hvoid hu)⟩, fun hu _ hx => absurd hx (hvoid hu),
    fun _ he => ?_, fun _ hrec => absurd hrec hrecord, fun hrec => absurd hrec hrecord⟩
  rw [hj] at he
  cases he

end Accounted

/-! ### Runs -/

/-- The sessions that runs lead to, each with the mappings that were added to it, all of them before the first request.
    Generators may be registered at any time. -/
inductive Arranged : List Mapping → Session → Prop
  | new (catalog : Catalog) (output : Output) (files : Files) : Arranged [] (Session.new catalog output files)
  | addMapping {mappings : List Mapping} {s : Session} (mapping : Mapping) : Arranged mappings s → s.journal = [] →
      Arranged (mappings ++ [mapping]) (s.addMapping mapping)
  | setText {mappings : List Mapping} {s t : Session} {key text : String} : Arranged mappings s →
      s.setText key text = .ok t → Arranged mappings t
  | setFeature {mappings : List Mapping} {α : Type} [FeatureType α] {s t : Session} {feature : Feature α}
      {value previous : α} : Arranged mappings s → s.setFeature feature value = .ok (previous, t) → Arranged mappings t
  | addExisting {mappings : List Mapping} {s : Session} (name : String) : Arranged mappings s →
      Arranged mappings (s.addExisting name)
  | register {mappings : List Mapping} {s : Session} (kind : String) (generator : Generator) : Arranged mappings s →
      Arranged mappings (s.register kind generator)
  | request {mappings : List Mapping} {s t : Session} {fuel : Nat} {l : Location} {a : Answer} : Arranged mappings s →
      generateWithin fuel l s = some (a, t) → Arranged mappings t

/-- The sessions that runs pass through, between requests and within them. -/
inductive Passes (mappings : List Mapping) : Session → Prop
  | between {s : Session} : Arranged mappings s → Passes mappings s
  | within {s t v : Session} {n : Nat} {l : Location} {a : Answer} : Arranged mappings s →
      generateWithin n l s = some (a, t) → v ∈ moments n l s → Passes mappings v

/-- What can be set at any time: a feature, or a type that is taken to exist. -/
inductive Adjusts : Session → Session → Prop
  | setText {s t : Session} {key text : String} : s.setText key text = .ok t → Adjusts s t
  | setFeature {α : Type} [FeatureType α] {s t : Session} {feature : Feature α} {value previous : α} :
      s.setFeature feature value = .ok (previous, t) → Adjusts s t
  | addExisting (s : Session) (name : String) : Adjusts s (s.addExisting name)

/-- Runs with the built-in generators in which sessions and the answers they give to requests satisfy a condition, each
    with the mappings that were added to it, all of them before the first request, and the sessions that its requests
    passed through. -/
inductive Runs (C : Session → Answer → Prop) : List Mapping → List Session → Session → Prop
  | new (catalog : Catalog) (output : Output) (files : Files) : Runs C [] [] (Session.new catalog output files)
  | addMapping {mappings : List Mapping} {path : List Session} {s : Session} (mapping : Mapping) :
      Runs C mappings path s → s.journal = [] → Runs C (mappings ++ [mapping]) path (s.addMapping mapping)
  | adjust {mappings : List Mapping} {path : List Session} {s t : Session} :
      Runs C mappings path s → Adjusts s t → Runs C mappings path t
  | request {mappings : List Mapping} {path : List Session} {s t : Session} {n : Nat} {l : Location} {r : Answer} :
      Runs C mappings path s → generateWithin n l s = some (r, t) → C s r → Runs C mappings (path ++ moments n l s) t

theorem Arranged.reachable (h : Arranged mappings s) : Reachable s := by
  induction h with
  | new catalog output files => exact .new catalog output files
  | addMapping mapping _ _ ih => exact ih.step (.addMapping _ mapping)
  | setText _ h ih => exact ih.step (.setText h)
  | setFeature _ h ih => exact ih.step (.setFeature h)
  | addExisting name _ ih => exact ih.step (.addExisting _ name)
  | register kind generator _ ih => exact ih.step (.register _ kind generator)
  | request _ h ih => exact ih.step (.request h)

theorem Arranged.unasked (h : Arranged mappings s) (hj : s.journal = []) :
    s.mappings = Mappings.ofList mappings ∧ (∀ n, n ∈ s.names.taken ↔ n ∈ Mapping.names mappings) ∧
      ∀ l, s.record? l = none := by
  induction h with
  | new catalog output files => exact ⟨rfl, fun n => Iff.rfl, fun l => rfl⟩
  | @addMapping mappings s mapping _ _ ih =>
    obtain ⟨hm, hn, hr⟩ := ih hj
    refine ⟨?_, fun n => ?_, hr⟩
    · rw [Mappings.ofList_concat, ← hm]
      rfl
    · obtain ⟨target, type⟩ := mapping
      rw [Mapping.names, List.filterMap_append, List.mem_append, ← Mapping.names, ← hn]
      cases type with
      | none => simp [Session.addMapping]
      | some x =>
        simp only [Session.addMapping, Names.mem_reserve, List.filterMap_cons, Option.map_some, List.filterMap_nil,
          List.mem_singleton]
        exact or_comm
  | setText _ h ih =>
    rw [setText_frame h] at hj ⊢
    exact ih hj
  | setFeature _ h ih =>
    rw [setFeature_frame h] at hj ⊢
    exact ih hj
  | addExisting name _ ih => exact ih hj
  | register kind generator _ ih => exact ih hj
  | request _ h _ =>
    obtain ⟨_, u, _, _, rfl⟩ := generateWithin_responds h
    cases hj

theorem Arranged.accounted (h : Arranged mappings s) : Accounted mappings s := by
  induction h with
  | new catalog output files =>
    obtain ⟨hm, hn, hr⟩ := (Arranged.new catalog output files).unasked rfl
    exact .start hm hn hr rfl
  | addMapping mapping h hj _ =>
    obtain ⟨hm, hn, hr⟩ := (h.addMapping mapping hj).unasked hj
    exact .start hm hn hr hj
  | setText _ h ih =>
    rw [setText_frame h]
    exact ih.congr rfl rfl rfl fun _ => Iff.rfl
  | setFeature _ h ih =>
    rw [setFeature_frame h]
    exact ih.congr rfl rfl rfl fun _ => Iff.rfl
  | addExisting name _ ih => exact ih.congr rfl rfl rfl fun _ => Iff.rfl
  | register kind generator _ ih => exact ih.congr rfl rfl rfl fun _ => Iff.rfl
  | request _ h ih => exact (Accounted.isKept.request h (fun _ _ => trivial) ih).1

theorem Passes.accounted (h : Passes mappings s) : Accounted mappings s := by
  cases h with
  | between h => exact h.accounted
  | within h hrequest hv => exact (Accounted.isKept.request hrequest (fun _ _ => trivial) h.accounted).2 _ hv

theorem Adjusts.frame (h : Adjusts s t) : t = { s with features := t.features, known := t.known } ∧
    ∀ x, s.known.contains x = true → t.known.contains x = true := by
  cases h with
  | setText h =>
    rw [setText_frame h]
    exact ⟨rfl, fun _ hx => hx⟩
  | setFeature h =>
    rw [setFeature_frame h]
    exact ⟨rfl, fun _ hx => hx⟩
  | addExisting _ name =>
    refine ⟨rfl, fun x hx => ?_⟩
    rw [KnownTypes.contains, List.contains_iff_mem] at hx ⊢
    exact List.mem_insert_of_mem hx

theorem Runs.arranged {C : Session → Answer → Prop} {path : List Session} (h : Runs C mappings path s) :
    Arranged mappings s := by
  induction h with
  | new catalog output files => exact .new catalog output files
  | addMapping mapping _ hj ih => exact ih.addMapping mapping hj
  | adjust _ hadjusts ih =>
    cases hadjusts with
    | setText h => exact ih.setText h
    | setFeature h => exact ih.setFeature h
    | addExisting _ name => exact ih.addExisting name
  | request _ h _ ih => exact ih.request h

/-- A location that has got a type, or none, gives back what is not its own: no other type is bound to it, and every
    other name in use is that of a mapping or of a type that is bound to another location. -/
structure GivesBack (mappings : List Mapping) (s : Session) (l : Location) (a : Option JavaType) : Prop where
  bound : ∀ x, s.mappings.type? l = some x → a = some x
  names : ∀ x : JavaType, x.arguments = [] → a ≠ some x → x.identity ∈ s.names.taken →
    x.identity ∈ Mapping.names mappings ∨ ∃ m y, m ≠ l ∧ s.mappings.type? m = some y ∧ y.identity = x.identity

theorem Holds.givesBack (h : Holds mappings s) (hl : Unmapped mappings l)
    (hbound : ∀ x, s.mappings.type? l = some x → a = some x) : GivesBack mappings s l a := by
  refine ⟨hbound, fun x hplain hne htaken => ?_⟩
  obtain hn | ⟨m, y, hy, heq⟩ := h.held htaken
  · exact Or.inl hn
  · refine Or.inr ⟨m, y, ?_, hy, heq⟩
    rintro rfl
    -- The type bound to the location has no arguments either, so it is `x`.
    have hyplain := h.plain hl hy
    obtain ⟨hpackage, hname⟩ := Prod.mk.inj heq
    have hxy : x = y := by
      cases x
      cases y
      simp_all
    exact hne (hxy ▸ hbound y hy)

/-- In every run, with requests that fail and are made again and with generators that are registered in between: a
    location without a mapping that has got a type, or none, has given back every name that is not its own, unless its
    record was taken back in between after a failure. Then it has exactly if it got the very type that was found for it
    at first. -/
theorem names_given_back_iff (h : Passes mappings s) (hl : (Mappings.ofList mappings).type? l = none)
    (hr : s.record? l = some (.resolved a)) :
    GivesBack mappings s l a ↔ (.erased l ∈ s.journal → s.mappings.type? l = a) := by
  have hs := h.accounted
  constructor
  · intro hback he
    obtain ⟨x, hx⟩ := hs.kept hl he
    rw [hx, hback.bound x hx]
  · intro hretried
    refine hs.givesBack hl fun x hx => ?_
    by_cases he : .erased l ∈ s.journal
    · rw [← hretried he, hx]
    · exact hs.settled hl hr he hx

end Session

/-! ### Dates -/

/-- A document with two schemas of one name: one of a kind without a built-in generator, and an object. -/
def datesDocument : Uri × Json :=
  (⟨"urn", "", none, none, none, .rootless "dates", none, none⟩,
    .object [("definitions", .object [("odd", .object [("type", .string "date")]),
        ("days", .object [("type", .string "array"), ("items", .object [("$ref", .string "#/$defs/odd")])])]),
      ("$defs", .object [("odd", .object [("type", .string "object")])])])

def dateIn (group name : String) : Location := ⟨datesDocument.1, "/" ++ group ++ "/" ++ name⟩

def localDate : JavaType := .plain "java.time" "LocalDate"

namespace Session

def dates : Session := Session.new (.preloaded [datesDocument]) (.memory .empty []) ⟨"/", []⟩

/-- A list gives back the name that was found for it, also after another location has failed. -/
theorem names_given_back_iff_days : ∃ s, Passes [] s ∧ (Mappings.ofList []).type? (dateIn "definitions" "days") = none ∧
    s.record? (dateIn "definitions" "days") = some (.resolved (some (.listOf (.plain "anonymous" "Odd2")))) ∧
    GivesBack [] s (dateIn "definitions" "days") (some (.listOf (.plain "anonymous" "Odd2"))) := by
  have hrun : ((generateWithin 4 (dateIn "definitions" "odd") dates).bind fun r =>
      generateWithin 4 (dateIn "definitions" "days") r.2).map (fun r =>
        (r.2.record? (dateIn "definitions" "days"), r.2.mappings.type? (dateIn "definitions" "days"))) =
      some (some (.resolved (some (.listOf (.plain "anonymous" "Odd2")))), none) := by decide +kernel
  obtain ⟨⟨_, s⟩, hbind, hs⟩ := Option.map_eq_some_iff.mp hrun
  obtain ⟨_, hodd, hdays⟩ := Option.bind_eq_some_iff.mp hbind
  obtain ⟨hrecord, hnone⟩ := Prod.mk.inj hs
  have hpasses : Passes [] s := .between (((Arranged.new _ _ _).request hodd).request hdays)
  refine ⟨s, hpasses, rfl, hrecord, (names_given_back_iff hpasses rfl hrecord).mpr fun he => ?_⟩
  -- After a failure some type would still be bound to the list.
  obtain ⟨x, hx⟩ := hpasses.accounted.kept rfl he
  cases hnone.symm.trans hx

/-- A location that failed at first and then got a type from a generator that was registered meanwhile keeps the name
    that was found for it, which is nobody else's. -/
theorem name_kept_after_failure : ∃ s, Passes [] s ∧
    s.record? (dateIn "definitions" "odd") = some (.resolved (some localDate)) ∧
    s.mappings.entries = [(dateIn "definitions" "odd", some (.plain "anonymous" "Odd"))] ∧
    s.names.taken = [("anonymous", "Odd")] ∧ ¬GivesBack [] s (dateIn "definitions" "odd") (some localDate) := by
  have hrun : ((generateWithin 4 (dateIn "definitions" "odd") dates).bind fun r =>
      generateWithin 4 (dateIn "definitions" "odd") (r.2.register "date" (.builtin localDate))).map (fun r =>
        (r.2.record? (dateIn "definitions" "odd"), r.2.mappings.entries, r.2.names.taken)) =
      some (some (.resolved (some localDate)), [(dateIn "definitions" "odd", some (.plain "anonymous" "Odd"))],
        [("anonymous", "Odd")]) := by decide +kernel
  obtain ⟨⟨_, s⟩, hbind, hs⟩ := Option.map_eq_some_iff.mp hrun
  obtain ⟨_, hfail, hagain⟩ := Option.bind_eq_some_iff.mp hbind
  simp only [Prod.mk.injEq] at hs
  obtain ⟨hrecord, hentries, htaken⟩ := hs
  have hpasses : Passes [] s :=
    .between ((((Arranged.new _ _ _).request hfail).register "date" (.builtin localDate)).request hagain)
  refine ⟨s, hpasses, hrecord, hentries, htaken, fun hback => ?_⟩
  have htype : s.mappings.type? (dateIn "definitions" "odd") = some (.plain "anonymous" "Odd") := by
    simp [Mappings.type?, hentries, Table.get?]
  exact absurd (hback.bound _ htype) (by decide)

end Session

end SchemaBeans
