import SchemaBeans.Proofs.Generation.Once
import SchemaBeans.Proofs.Generator.Emission
import SchemaBeans.Proofs.Names.Free

/-! No two locations write the same type.

A location owns the name of the type that is bound to it. Names are bound before it is known whether a
location gets a source, given back when it gets none, kept when it fails, and found again for locations
that come later. Through all of this no two locations own one name (`Owns`), and a source is only ever
written under the type that its location owns. -/

namespace SchemaBeans

open Java (Source)

/-- Different locations have types of different names. -/
def Mappings.Apart (mappings : Mappings) : Prop :=
  ∀ {l m t u}, mappings.type? l = some t → mappings.type? m = some u → t.identity = u.identity → l = m

namespace Session

/-! ### Owners -/

/-- The types bound to locations have names in use, different ones for different locations, and a source is
    written under the type that is bound to its location. -/
structure Owns (s : Session) : Prop where
  taken : ∀ {l t}, s.mappings.type? l = some t → t.identity ∈ s.names.taken
  apart : s.mappings.Apart
  written : ∀ w ∈ s.written, s.mappings.type? w.location = some w.type

namespace Owns
variable {s t u : Session} {l : Location} {bound : JavaType} {isNew : Bool}

theorem congr (h : Owns s) (hm : t.mappings = s.mappings) (hn : t.names = s.names) (hw : t.written = s.written) :
    Owns t := by
  refine ⟨fun {l x} hl => ?_, fun {l m x y} hl hm' => ?_, fun w hmem => ?_⟩
  · rw [hm] at hl
    rw [hn]
    exact h.taken hl
  · rw [hm] at hl hm'
    exact h.apart hl hm'
  · rw [hw] at hmem
    rw [hm]
    exact h.written w hmem

theorem of_quiet (h : Owns s) (hq : Quiet s t) : Owns t := h.congr hq.mappings hq.names hq.written

/-- A name that is found for a location was free, so no other location owns it. -/
theorem bind (h : Owns s) (hb : Binds s l bound isNew t) : Owns t := by
  have hself := hb.type?_self
  have hoff : ∀ {m}, m ≠ l → t.mappings.type? m = s.mappings.type? m := hb.type?_of_ne
  cases hb with
  | held _ => exact h
  | found hnone hq hunique =>
    have htaken := fun {n} => Names.unique_taken (n := n) hunique
    have hfree := Names.unique_free hunique
    have hcases : ∀ {m x}, Mappings.type? (s.mappings.put ⟨l, some bound⟩) m = some x →
        (m = l ∧ x = bound) ∨ (m ≠ l ∧ s.mappings.type? m = some x) := by
      intro m x hm
      by_cases hml : m = l
      · subst hml
        exact Or.inl ⟨rfl, Option.some.inj (hm.symm.trans hself)⟩
      · exact Or.inr ⟨hml, (hoff hml).symm.trans hm⟩
    refine ⟨fun hm => htaken.mpr ?_, fun {m n x y} hm hn heq => ?_, fun w hw => ?_⟩
    · rcases hcases hm with ⟨-, rfl⟩ | ⟨-, hm⟩
      · exact Or.inl rfl
      · exact Or.inr (h.taken hm)
    -- The name of the new type was free, so it is that of no type bound before.
    · rcases hcases hm with ⟨rfl, rfl⟩ | ⟨-, hm'⟩ <;> rcases hcases hn with ⟨rfl, rfl⟩ | ⟨-, hn'⟩
      · rfl
      · exact absurd (heq ▸ h.taken hn') hfree
      · exact absurd (heq ▸ h.taken hm') hfree
      · exact h.apart hm' hn' heq
    · have hw' := h.written w (hq.written ▸ hw)
      have hne : w.location ≠ l := by
        intro heq
        rw [heq, hnone] at hw'
        cases hw'
      exact (hoff hne).trans hw'

theorem mark (h : Owns s) (r : Record) : Owns (s.setRecord l r) := h.congr rfl rfl rfl

theorem write {text : String} (h : Owns s) (hl : s.mappings.type? l = some bound)
    (hw : s.write l bound text = (.ok (), t)) : Owns t := by
  obtain ⟨_, _, _, rfl⟩ := write_ok hw
  refine ⟨h.taken, h.apart, fun w hmem => ?_⟩
  rcases List.mem_append.mp hmem with hmem | hmem
  · exact h.written w hmem
  · obtain rfl := List.mem_singleton.mp hmem
    exact hl

theorem unwritten {type : JavaType} {text : String} {e : Error} (h : Owns s)
    (hw : s.write l type text = (.error e, t)) : Owns t := by
  obtain ⟨_, _, _, rfl⟩ := write_error hw
  exact h.congr rfl rfl rfl

/-- Giving a name back leaves the others in use, since nobody else owns it. -/
theorem settle {a : Option JavaType} (h : Owns s) (hl : s.mappings.type? l = some bound)
    (hunused : a ≠ some bound → ∀ w ∈ s.written, w.location ≠ l) : Owns (s.settle l bound isNew a) := by
  have hself : (s.settle l bound isNew a).mappings.type? l = if isNew && a ≠ some bound then none else s.mappings.type? l :=
    type?_settle_self
  have hoff : ∀ {m}, m ≠ l → (s.settle l bound isNew a).mappings.type? m = s.mappings.type? m := type?_settle_of_ne
  by_cases hrelease : (isNew && a ≠ some bound) = true
  · have hnames : (s.settle l bound isNew a).names = s.names.release bound := by
      simp only [Session.settle, hrelease, ↓reduceIte]
      rfl
    rw [if_pos hrelease] at hself
    have hother : ∀ {m x}, (s.settle l bound isNew a).mappings.type? m = some x → m ≠ l ∧ s.mappings.type? m = some x := by
      intro m x hm
      have hml : m ≠ l := by
        rintro rfl
        rw [hself] at hm
        cases hm
      exact ⟨hml, (hoff hml).symm.trans hm⟩
    refine ⟨fun hm => ?_, fun hm hn => h.apart (hother hm).2 (hother hn).2, fun w hw => ?_⟩
    · obtain ⟨hml, hm⟩ := hother hm
      rw [hnames, Names.mem_release]
      -- A location with a type of this name would be the one that gives it back.
      exact ⟨h.taken hm, fun heq => hml (h.apart hm hl heq)⟩
    · have hne : a ≠ some bound := by simpa using (Bool.and_eq_true_iff.mp hrelease).2
      rw [settle_frame] at hw
      rw [hoff (hunused hne w hw)]
      exact h.written w hw
  · have hkeep : s.settle l bound isNew a = s.setRecord l (.resolved a) := by
      simp only [Session.settle, hrelease]
      rfl
    rw [hkeep]
    exact h.mark _

end Owns

/-! ### Requests -/

/-- What holds between requests with the built-in generators. -/
structure Managed (s : Session) : Prop extends Owns s where
  orderly : Orderly none s
  builtin : s.generators = .standard

namespace Managed
variable {s t u : Session} {l : Location} {bound : JavaType} {isNew : Bool}

theorem of_quiet (h : Managed s) (hq : Quiet s t) : Managed t :=
  ⟨h.toOwns.of_quiet hq, h.orderly.of_quiet hq, hq.generators.trans h.builtin⟩

theorem calm : Calm fun s t => Managed s → Managed t := .invariant fun hq h => h.of_quiet hq

theorem mark (h : Managed s) (hnew : s.record? l = none) (hb : Binds s l bound isNew t) :
    Managed (t.setRecord l .pending) where
  toOwns := (h.toOwns.bind hb).mark _
  orderly := (h.orderly.bind hb).mark ((hb.record? l).trans hnew)
  builtin := (hb.sameSetup _).generators.trans h.builtin

theorem not_written (h : Managed s) (hl : s.record? l = some .pending) : ∀ w ∈ s.written, w.location ≠ l := by
  rintro w hw rfl
  obtain ⟨a, ha⟩ := (h.orderly.written w hw).resolve_left (by simp)
  rw [hl] at ha
  cases ha

section Ask
variable {ask : Location → Session → Outcome (Option JavaType)}
  (hkeep : ∀ {l s a t}, ask l s = some (a, t) → Keeps s t)
  (hask : ∀ {l s a t}, ask l s = some (a, t) → Managed s → Managed t)
include hkeep hask

theorem produces {a : Answer} (h : Managed s) (hl : s.record? l = some .pending)
    (hbound : s.mappings.type? l = some bound) (hp : Produces ask l bound s a t) :
    Owns t ∧ (a ≠ .ok (some bound) → ∀ w ∈ t.written, w.location ≠ l) := by
  have hopen : ∀ node, Managed (s.opened l node) := fun node => h.of_quiet (opened_quiet s l node)
  have plain : Managed t → Keeps s t → Owns t ∧ (a ≠ .ok (some bound) → ∀ w ∈ t.written, w.location ≠ l) :=
    fun ht hk => ⟨ht.toOwns, fun _ => ht.not_written (hk.record hl)⟩
  have hk := Keeps.steady.produces hkeep hp
  cases hp with
  | given _ => exact plain h hk
  | refused _ _ hq => exact plain (h.of_quiet hq) hk
  | reference _ _ _ ha => exact plain (hask ha (h.of_quiet (redirected_quiet _ _ _))) hk
  | null _ _ _ => exact plain (hopen _) hk
  | failed _ _ hrun => exact plain (calm.run hask hrun (hopen _)) hk
  | silent _ _ hrun _ => exact plain (calm.run hask hrun (hopen _)) hk
  | @unwritten node _ _ _ _ _ u _ _ _ hrun _ _ hw =>
    have hu := calm.run hask hrun (hopen _)
    have hku := (Keeps.of_quiet (opened_quiet s l node)).trans (Keeps.steady.run hkeep hrun)
    refine ⟨hu.toOwns.unwritten hw, fun _ w hmem => ?_⟩
    have hsame : t.written = u.written := by
      obtain ⟨_, _, _, rfl⟩ := write_error hw
      rfl
    exact hu.not_written (hku.record hl) w (hsame ▸ hmem)
  | @written node generator a source _ u _ _ hd hrun hfull _ hw =>
    obtain ⟨rfl, -⟩ := (hd.standard_ends h.builtin hrun).written hfull
    have hu := calm.run hask hrun (hopen _)
    have hku := (Keeps.of_quiet (opened_quiet s l node)).trans (Keeps.steady.run hkeep hrun)
    exact ⟨hu.toOwns.write ((hku.type hl).trans hbound) hw, fun hne => absurd rfl hne⟩

theorem responds {a : Answer} (h : Managed s) (hr : Responds ask l s a t) : Owns t := by
  cases hr with
  | resolved _ hq => exact (h.of_quiet hq).toOwns
  | failed _ => exact h.toOwns
  | pending _ hq hs => exact (calm.stands hask hs (h.of_quiet hq)).toOwns
  | settled hnew hb hp =>
    obtain ⟨hu, hunused⟩ := produces hkeep hask (h.mark hnew hb) record?_setRecord_self hb.type?_self hp
    have hl := ((Keeps.steady.produces hkeep hp).type record?_setRecord_self).trans hb.type?_self
    exact hu.settle hl fun hne => hunused fun heq => hne (Except.ok.inj heq)
  | assumed hnew hb hp _ hq =>
    have hu := (produces hkeep hask (h.mark hnew hb) record?_setRecord_self hb.type?_self hp).1
    exact (hu.of_quiet hq).mark _
  | forgotten hnew hb hp _ =>
    have hu := (produces hkeep hask (h.mark hnew hb) record?_setRecord_self hb.type?_self hp).1
    exact hu.congr rfl rfl rfl

end Ask

end Managed

theorem generateWithin_managed {fuel : Nat} {l : Location} {s t : Session} {a : Answer}
    (h : generateWithin fuel l s = some (a, t)) (hs : Managed s) : Managed t := by
  induction fuel generalizing l s a t with
  | zero => cases h
  | succ n ih =>
    obtain ⟨_, u, hn, hr, rfl⟩ := generateWithin_responds h
    cases hn
    have hu := Managed.responds generateWithin_keeps ih hs hr
    exact ⟨hu.congr rfl rfl rfl, generateWithin_orderly h hs.orderly,
      (generateWithin_keeps h).generators.trans hs.builtin⟩

/-! ### Runs -/

/-- The sessions that runs with the built-in generators lead to, each with the mappings that were added to
    it, all of them before the first request. -/
inductive Prepared : List Mapping → Session → Prop
  | new (catalog : Catalog) (output : Output) (files : Files) : Prepared [] (Session.new catalog output files)
  | addMapping {mappings : List Mapping} {s : Session} (mapping : Mapping) : Prepared mappings s → s.journal = [] →
      Prepared (mappings ++ [mapping]) (s.addMapping mapping)
  | setText {mappings : List Mapping} {s t : Session} {key text : String} : Prepared mappings s →
      s.setText key text = .ok t → Prepared mappings t
  | setFeature {mappings : List Mapping} {α : Type} [FeatureType α] {s t : Session} {feature : Feature α}
      {value previous : α} : Prepared mappings s → s.setFeature feature value = .ok (previous, t) → Prepared mappings t
  | addExisting {mappings : List Mapping} {s : Session} (name : String) : Prepared mappings s →
      Prepared mappings (s.addExisting name)
  | request {mappings : List Mapping} {s t : Session} {fuel : Nat} {l : Location} {a : Answer} : Prepared mappings s →
      generateWithin fuel l s = some (a, t) → Prepared mappings t

section Prepared
variable {mappings : List Mapping} {s t : Session}

theorem Prepared.reachable (h : Prepared mappings s) : Reachable s := by
  induction h with
  | new catalog output files => exact .new catalog output files
  | addMapping mapping _ _ ih => exact ih.step (.addMapping _ mapping)
  | setText _ h ih => exact ih.step (.setText h)
  | setFeature _ h ih => exact ih.step (.setFeature h)
  | addExisting name _ ih => exact ih.step (.addExisting _ name)
  | request _ h ih => exact ih.step (.request h)

theorem Prepared.builtin (h : Prepared mappings s) : s.generators = .standard := by
  induction h with
  | new catalog output files => rfl
  | addMapping mapping _ _ ih => exact ih
  | setText _ h ih =>
    rw [setText_frame h]
    exact ih
  | setFeature _ h ih =>
    rw [setFeature_frame h]
    exact ih
  | addExisting name _ ih => exact ih
  | request _ h ih => exact (generateWithin_keeps h).generators.trans ih

/-- Before the first request the store holds the mappings that were added, and the names of their types are
    in use. -/
theorem Prepared.unasked (h : Prepared mappings s) (hj : s.journal = []) :
    s.mappings = mappings.foldl Mappings.put .empty ∧
      ∀ l t, s.mappings.type? l = some t → t.identity ∈ s.names.taken := by
  induction h with
  | new catalog output files =>
    refine ⟨rfl, fun l t ht => ?_⟩
    cases ht
  | @addMapping mappings s mapping _ _ ih =>
    obtain ⟨hm, htaken⟩ := ih hj
    refine ⟨?_, fun l t ht => ?_⟩
    · rw [List.foldl_append, ← hm]
      rfl
    · obtain ⟨target, type⟩ := mapping
      by_cases hl : l = target
      · subst hl
        have htype : type = some t := by simpa [Session.addMapping, Mappings.type?, Mappings.put] using ht
        subst htype
        exact Names.mem_reserve.mpr (Or.inl rfl)
      · have hold : s.mappings.type? l = some t := by
          simpa only [Session.addMapping, Mappings.type?, Mappings.put, Table.get?_put_of_ne _ _ hl] using ht
        cases type with
        | none => exact htaken l t hold
        | some u => exact Names.mem_reserve.mpr (Or.inr (htaken l t hold))
  | setText _ h ih =>
    rw [setText_frame h] at hj ⊢
    exact ih hj
  | setFeature _ h ih =>
    rw [setFeature_frame h] at hj ⊢
    exact ih hj
  | addExisting name _ ih => exact ih hj
  | request _ h _ =>
    obtain ⟨_, u, _, _, rfl⟩ := generateWithin_responds h
    cases hj

theorem Prepared.managed (h : Prepared mappings s) (hapart : (mappings.foldl Mappings.put .empty).Apart) :
    Managed s := by
  refine ⟨?_, h.reachable.orderly, h.builtin⟩
  induction h with
  | new catalog output files => exact ⟨fun h => (by cases h), hapart, by simp [Session.new]⟩
  | @addMapping mappings s mapping h hj _ =>
    -- Nothing is written before the first request, so only the mappings that were added count.
    have hprepared := h.addMapping mapping hj
    obtain ⟨hm, htaken⟩ := hprepared.unasked hj
    refine ⟨fun {l t} => htaken l t, hm ▸ hapart, fun w hw => ?_⟩
    obtain ⟨a, ha⟩ := (hprepared.reachable.orderly.written w hw).resolve_left (by simp)
    have hnoted := hprepared.reachable.orderly.noted ha
    rw [show (s.addMapping mapping).journal = [] from hj] at hnoted
    cases hnoted
  | setText _ h ih =>
    rw [setText_frame h]
    exact (ih hapart).congr rfl rfl rfl
  | setFeature _ h ih =>
    rw [setFeature_frame h]
    exact (ih hapart).congr rfl rfl rfl
  | addExisting name _ ih => exact (ih hapart).congr rfl rfl rfl
  | request h hrequest ih =>
    exact (generateWithin_managed hrequest ⟨ih hapart, h.reachable.orderly, h.builtin⟩).toOwns

/-- In every run with the built-in generators, with requests that fail and are made again, missing types
    ignored or not, two sources that are written for different locations are written under different names,
    if the mappings added before the first request give different names to different locations. -/
theorem sources_of_locations_apart (h : Prepared mappings s) (hapart : (mappings.foldl Mappings.put .empty).Apart) :
    ∀ e ∈ s.written, ∀ e' ∈ s.written, e.location ≠ e'.location → e.type.identity ≠ e'.type.identity := by
  intro e he e' he' hne heq
  have howns := (h.managed hapart).toOwns
  exact hne (howns.apart (howns.written e he) (howns.written e' he') heq)

end Prepared

end Session

/-! ### Parts -/

/-- A document with two schemas for parts: a list of pieces, and a part. -/
def partsDocument : Uri × Json :=
  (⟨"urn", "", none, none, none, .rootless "parts", none, none⟩,
    .object [("definitions", .object [("part", .object
        [("type", .string "array"), ("items", .object [("type", .string "object")])])]),
      ("$defs", .object [("part", .object [("type", .string "object")])])])

/-- A part in one of the two groups of schemas. -/
def partIn (group : String) : Location := ⟨partsDocument.1, "/" ++ group ++ "/part"⟩

namespace Session

/-- Pieces are mapped to a type of their own. -/
def piece : Mapping := ⟨⟨partsDocument.1, "/definitions/part/items"⟩, some (.plain "anonymous" "Piece")⟩

/-- A run with a request that fails. The name found for the list of pieces is given back, and used again. -/
theorem sources_of_locations_apart_parts : ∃ s, Prepared [piece] s ∧
    s.written.map (·.type) = [.plain "anonymous" "Piece", .plain "anonymous" "Part"] ∧
    ∀ e ∈ s.written, ∀ e' ∈ s.written, e.location ≠ e'.location → e.type.identity ≠ e'.type.identity := by
  have hrun : (((generateWithin 4 (partIn "nothing")
      ((Session.new (.preloaded [partsDocument]) (.memory .empty []) ⟨"/", []⟩).addMapping piece)).bind fun r =>
        generateWithin 4 (partIn "definitions") r.2).bind fun r =>
          generateWithin 4 (partIn "$defs") r.2).map (fun r => r.2.written.map (·.type)) =
        some [.plain "anonymous" "Piece", .plain "anonymous" "Part"] := by decide +kernel
  obtain ⟨⟨_, s⟩, hbind, hs⟩ := Option.map_eq_some_iff.mp hrun
  obtain ⟨_, hbind, hpart⟩ := Option.bind_eq_some_iff.mp hbind
  obtain ⟨_, hfail, hlist⟩ := Option.bind_eq_some_iff.mp hbind
  have hprepared : Prepared [piece] s := ((((Prepared.new _ _ _).addMapping piece rfl).request hfail).request hlist).request hpart
  refine ⟨s, hprepared, hs, sources_of_locations_apart hprepared fun {l m t u} hl hm _ => ?_⟩
  have hone : ∀ {l t}, (List.foldl Mappings.put .empty [piece]).type? l = some t → l = piece.target := by
    intro l t hl
    by_contra hne
    simp [Mappings.type?, Mappings.put, Mappings.empty, Table.get?_put_of_ne _ _ hne] at hl
  rw [hone hl, hone hm]

end Session

end SchemaBeans
