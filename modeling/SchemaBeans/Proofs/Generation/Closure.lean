import SchemaBeans.Proofs.Generation.Refinement
import SchemaBeans.Proofs.Java.Units

/-! What a successful run refers to is there.

Types are handed out before their sources exist: an object that is pending is already a type of fields and of
items elsewhere. Such a type is a promise (`Backs.promised`), and the promise is kept when the object is
settled, since its source is written by then. At the end of a run that succeeds nothing is pending, so every
type that occurs in an answer or in a class that was written is provided or has a source. -/

namespace SchemaBeans

open Java (Source)

/-! ### Occurrences of types -/

/-- The type needs no source: it is primitive, stands for a primitive type, or is known to exist. What stands
    between the angle brackets of a type that a location is mapped to is taken as it is. -/
inductive Setup.Provides (w : Setup) (x : JavaType) : Prop
  | primitive : x.isPrimitive = true → Provides w x
  | boxed {t : JavaType} : t.isPrimitive = true → x = t.boxed → Provides w x
  | known : KnownTypes.standard.contains x = true → Provides w x
  | mapped {l : Location} {t a : JavaType} : w.configured.type? l = some t → a ∈ t.arguments → x.OccursIn a →
      Provides w x

namespace Session
variable {w : Setup} {f : Features} {R : Location → Prop} {s t u : Session} {l m : Location} {x y bound : JavaType}
  {isNew : Bool} {a : Option JavaType}

/-- A type is provided, has a source, or is that of an object that is pending. -/
inductive Backs (w : Setup) (s : Session) (x : JavaType) : Prop
  | provided : w.Provides x → Backs w s x
  | written {e : Written} : e ∈ s.written → e.type = x → Backs w s x
  | promised {p : Location} : s.record? p = some .pending → w.IsObject p → s.mappings.type? p = some x → Backs w s x

/-- Everything that occurs in a type is backed. -/
def Covers (w : Setup) (s : Session) (y : JavaType) : Prop := ∀ x, x.OccursIn y → Backs w s x

theorem Backs.keep (h : Backs w s x) (hk : Keeps s t) : Backs w t x := by
  cases h with
  | provided hx => exact .provided hx
  | written he hx => exact .written (hk.written he) hx
  | promised hp ho hx => exact .promised (hk.record hp) ho ((hk.type hp).trans hx)

theorem Covers.of_arguments (hy : Backs w s y) (harguments : ∀ z ∈ y.arguments, Covers w s z) : Covers w s y := by
  intro x hx
  cases hx with
  | self => exact hy
  | argument hz hx => exact harguments _ hz x hx

theorem Covers.boxed (h : Covers w s y) : Covers w s y.boxed := by
  cases hbox : y.boxClass? with
  | none =>
    rw [JavaType.boxed, hbox]
    exact h
  | some name =>
    have hprimitive : y.isPrimitive = true := by
      rw [JavaType.isPrimitive, hbox]
      rfl
    refine .of_arguments (.provided (.boxed hprimitive rfl)) fun z hz => ?_
    rw [JavaType.boxed, hbox] at hz
    cases hz

theorem Covers.string : Covers w s .string :=
  .of_arguments (.provided (.known (by decide))) fun _ hz => by cases hz

theorem Covers.primitive (h : y.isPrimitive = true) (harguments : y.arguments = []) : Covers w s y :=
  .of_arguments (.provided (.primitive h)) fun _ hz => by rw [harguments] at hz; cases hz

theorem Covers.listOf (h : Covers w s y) : Covers w s y.listOf := by
  refine .of_arguments (.provided (.known ?_)) fun z hz => ?_
  · show KnownTypes.standard.names.contains "java.util.List" = true
    decide
  · obtain rfl := List.mem_singleton.mp hz
    exact h.boxed

theorem Covers.mapOf (h : Covers w s y) : Covers w s y.mapOf := by
  refine .of_arguments (.provided (.known ?_)) fun z hz => ?_
  · show KnownTypes.standard.names.contains "java.util.Map" = true
    decide
  · rcases List.mem_cons.mp hz with rfl | hz
    · exact .string
    · obtain rfl := List.mem_singleton.mp hz
      exact h.boxed

theorem Covers.nested (h : Covers w s y) (n : Nat) : Covers w s (nested n y) := by
  induction n with
  | zero => exact h
  | succ n ih =>
    rw [nested_succ]
    exact ih.listOf

theorem Standard.covers (hs : s.Standard w f) (hl : s.mappings.type? l = some x) (hx : Backs w s x) : Covers w s x := by
  refine .of_arguments hx fun z hz y hy => ?_
  rcases hs.named hl with hc | ⟨-, -, hnone⟩
  · exact .provided (.mapped hc hz hy)
  · rw [hnone] at hz
    cases hz

/-! ### Closed sessions -/

/-- Nothing has failed, and what was answered or written mentions only types that are backed. -/
structure Closed (w : Setup) (f : Features) (s : Session) : Prop extends Standard w f s where
  unfailed : ∀ {l t}, s.record? l ≠ some (.failed t)
  resolved : ∀ {l t}, s.record? l = some (.resolved (some t)) → Covers w s t
  answered : ∀ {l t}, .answered l (.ok (some t)) ∈ s.journal → Covers w s t
  written : ∀ e ∈ s.written, e.Declares (Covers w s)

namespace Closed

theorem change (h : Closed w f s) (ht : t.Standard w f) (hback : ∀ x, Backs w s x → Backs w t x)
    (hrecord : ∀ l r, t.record? l = some r → r ≠ .pending →
      s.record? l = some r ∨ ∃ a, r = .resolved a ∧ ∀ x, a = some x → Covers w t x)
    (hjournal : ∀ l x, .answered l (.ok (some x)) ∈ t.journal →
      .answered l (.ok (some x)) ∈ s.journal ∨ Covers w t x)
    (hwritten : ∀ e ∈ t.written, e ∈ s.written ∨ e.Declares (Covers w t)) : Closed w f t := by
  have hcover : ∀ {y}, Covers w s y → Covers w t y := fun hy x hx => hback x (hy x hx)
  refine ⟨ht, fun {l x} hr => ?_, fun {l x} hr => ?_, fun {l x} hm => ?_, fun e he => ?_⟩
  · rcases hrecord l _ hr (by simp) with hold | ⟨_, heq, -⟩
    · exact h.unfailed hold
    · cases heq
  · rcases hrecord l _ hr (by simp) with hold | ⟨_, heq, hnew⟩
    · exact hcover (h.resolved hold)
    · cases heq
      exact hnew x rfl
  · rcases hjournal l x hm with hold | hnew
    · exact hcover (h.answered hold)
    · exact hnew
  · rcases hwritten e he with hold | hnew
    · exact (h.written e hold).mono fun _ => hcover
    · exact hnew

theorem quiet (h : Closed w f s) (hq : Quiet s t) : Closed w f t := by
  refine h.change (h.toStandard.quiet hq) (fun x hx => hx.keep (.of_quiet hq)) (fun l r hr _ => Or.inl ?_)
    (fun l x hm => Or.inl ?_) (fun e he => Or.inl ?_)
  · rwa [hq.record?] at hr
  · rwa [hq.journal] at hm
  · rwa [hq.written] at he

theorem mark (h : Closed w f s) (hnew : s.record? l = none) (hb : Binds s l bound isNew t) :
    Closed w f (t.setRecord l .pending) := by
  have hwritten := hb.written_mark .pending
  refine h.change (h.toStandard.mark hb _) (fun x hx => ?_) (fun m r hr hne => Or.inl (hb.record?_of_mark hr hne))
    (fun m x hm => Or.inl ?_) (fun e he => Or.inl (hwritten ▸ he))
  · cases hx with
    | provided hx => exact .provided hx
    | written he hx => exact .written (hwritten.symm ▸ he) hx
    | promised hp ho hx =>
      refine .promised ?_ ho (hb.type?_of_some hx)
      rw [hb.record?_mark_of_ne ?_]
      · exact hp
      · rintro rfl
        rw [hnew] at hp
        cases hp
  · rw [hb.journal_mark] at hm
    rcases List.mem_cons.mp hm with hm | hm
    · cases hm
    · exact hm

theorem write {text : String} (h : Closed w f s) (hw : s.write l x text = (.ok (), t))
    (hnew : (⟨l, x, text⟩ : Written).Declares (Covers w s)) : Closed w f t ∧ ⟨l, x, text⟩ ∈ t.written := by
  have hk := Keeps.write hw
  have ht := Standard.steady.write hw h.toStandard
  obtain ⟨_, _, _, rfl⟩ := write_ok hw
  refine ⟨h.change ht (fun _ hx => hx.keep hk) (fun _ _ hr _ => Or.inl hr) (fun _ _ hm => Or.inl hm) fun e he => ?_,
    List.mem_append_right _ List.mem_cons_self⟩
  rcases List.mem_append.mp he with he | he
  · exact Or.inl he
  · obtain rfl := List.mem_singleton.mp he
    exact Or.inr (hnew.mono fun _ hy z hz => (hy z hz).keep hk)

/-- A promise is kept when its object is settled. -/
theorem settle (h : Closed w f s) (hl : s.mappings.type? l = some bound)
    (hnew : isNew = true → w.configured.type? l = none) (ha : ∀ x, a = some x → Covers w s x)
    (hobject : w.IsObject l → w.Provides bound ∨ ∃ e ∈ s.written, e.type = bound) :
    Closed w f (s.settle l bound isNew a) ∧ ∀ x, a = some x → Covers w (s.settle l bound isNew a) x := by
  have hwritten : (s.settle l bound isNew a).written = s.written := written_settle
  have hback : ∀ x, Backs w s x → Backs w (s.settle l bound isNew a) x := by
    intro x hx
    cases hx with
    | provided hx => exact .provided hx
    | written he hx => exact .written (hwritten.symm ▸ he) hx
    | @promised p hp ho hx =>
      -- Only the location itself is no longer pending, and its type is provided or written by now.
      by_cases hpl : p = l
      · subst hpl
        cases hl.symm.trans hx
        rcases hobject ho with hprovided | ⟨e, he, heq⟩
        · exact .provided hprovided
        · exact .written (hwritten.symm ▸ he) heq
      · exact .promised ((record?_settle_of_ne hpl).trans hp) ho ((type?_settle_of_ne hpl).trans hx)
  have hcover : ∀ x, a = some x → Covers w (s.settle l bound isNew a) x :=
    fun x hx y hy => hback y (ha x hx y hy)
  refine ⟨h.change (h.toStandard.settle hl hnew) hback (fun m r hr _ => ?_) (fun m x hm => Or.inl ?_)
    (fun e he => Or.inl (hwritten ▸ he)), hcover⟩
  · rcases record?_of_settle hr with ⟨-, rfl⟩ | hr
    · exact Or.inr ⟨a, rfl, hcover⟩
    · exact Or.inl hr
  · rw [journal_settle] at hm
    rcases List.mem_cons.mp hm with hm | hm
    · cases hm
    · exact hm

theorem reply (h : Closed w f s) (ha : ∀ x, a = some x → Covers w s x) : Closed w f (s.reply l (.ok a)) := by
  have hk := Keeps.reply s l (.ok a)
  refine h.change (h.toStandard.congr hk.toSameSetup rfl) (fun _ hx => hx.keep hk) (fun _ _ hr _ => Or.inl hr)
    (fun m x hm => ?_) (fun _ he => Or.inl he)
  rcases List.mem_cons.mp hm with hm | hm
  · cases hm
    exact Or.inr fun y hy => (ha x rfl y hy).keep hk
  · exact Or.inl hm

end Closed

/-! ### Requests -/

/-- What an answer says: its type is covered. -/
def Answers (w : Setup) (s : Session) (_ : Location) (a : Option JavaType) : Prop := ∀ x, a = some x → Covers w s x

section Ask
variable {ask : Location → Session → Outcome (Option JavaType)} {source : Source}
  (hkeep : ∀ {m u r v}, ask m u = some (r, v) → Keeps u v)
  (hask : ∀ {m u b v}, ask m u = some (.ok b, v) → Ready w R (Closed w f) u m → Closed w f v ∧ Answers w v m b)
  (hR : ∀ {m m'}, R m → w.Needs m m' → R m')
include hkeep hask hR

theorem Closed.dispatch (hready : Ready w R (Closed w f) s l) (hnew : s.record? l = none) (hb : Binds s l bound isNew t)
    {node : Json} {generator : Generator} (hg : (t.setRecord l .pending).isGiven bound = false)
    (hd : (t.setRecord l .pending).Dispatches l node generator)
    (hrun : (generator ((t.setRecord l .pending).task l bound node)).run ask ((t.setRecord l .pending).opened l node) =
      some (.ok (a, source), u)) :
    Closed w f u ∧ w.Schema l node ∧ source.finish = .ok source.text ∧
      Generator.Ends (Answers w u) ((t.setRecord l .pending).task l bound node) a source := by
  have hs := hready.holds.mark hnew hb
  obtain ⟨kind, hschema, hk, hgen⟩ := hs.dispatches hb.type?_self hg hd
  have hfits := @Generators.standard_fits kind generator ((t.setRecord l .pending).task l bound node) hgen hk
  obtain ⟨hu, hy⟩ := Ready.run (fun hq hv => hv.quiet hq) hkeep hask
    (fun _ _ hk hv x hx y hy => (hv x hx y hy).keep hk) hfits
    (fun m hm v hv => hready.dispatch hR hnew hb hschema hm hv) (hs.quiet (opened_quiet _ _ _)) hrun
  exact ⟨hu, hschema, Source.finish_of_closed (hfits.closes.run hrun), Generator.standard_ends hgen hk hy⟩

/-- The type of a new location is covered, and where it is an object, its own type is provided or written. -/
theorem Closed.produces (hready : Ready w R (Closed w f) s l) (hnew : s.record? l = none) (hb : Binds s l bound isNew t)
    (h : Produces ask l bound (t.setRecord l .pending) (.ok a) u) :
    Closed w f u ∧ Answers w u l a ∧ (w.IsObject l → w.Provides bound ∨ ∃ e ∈ u.written, e.type = bound) := by
  have hs := hready.holds.mark hnew hb
  cases h with
  | given hg =>
    have hprovides : w.Provides bound := by
      rw [isGiven, hs.known, Bool.or_eq_true] at hg
      exact hg.elim .primitive .known
    refine ⟨hs, fun x hx => ?_, fun _ => Or.inl hprovides⟩
    cases hx
    exact hs.covers hb.type?_self (.provided hprovides)
  | reference hg hn ht ha =>
    have hrefers := hs.refers hb.type?_self hg hn ht
    obtain ⟨hu, hanswer⟩ := hask ha (hready.redirect hR hnew hb hrefers (hs.quiet (redirected_quiet _ _ _)))
    refine ⟨hu, hanswer, ?_⟩
    rintro ⟨_, hschema, -⟩
    exact absurd hschema hrefers.not_schema
  | null hg hr hk =>
    refine ⟨hs.quiet (opened_quiet _ _ _), fun x hx => (by cases hx), ?_⟩
    rintro ⟨_, hschema, hobject⟩
    cases (hs.schema hb.type?_self hg hr).unique hschema
    cases hk.symm.trans hobject
  | silent hg hd hrun hempty =>
    obtain ⟨hu, hschema, -, hends⟩ := Closed.dispatch hkeep hask hR hready hnew hb hg hd hrun
    obtain ⟨hkind, y, rfl, hy⟩ := hends.silent hempty
    refine ⟨hu, fun x hx => ?_, ?_⟩
    · cases hx
      -- A schema without a source stands for a type of the library, or for a list.
      rcases hy with (rfl | rfl | rfl | rfl) | ⟨_, z, hz, rfl⟩
      · exact .string
      · exact .primitive rfl rfl
      · exact .primitive rfl rfl
      · exact .primitive rfl rfl
      · exact (hz z rfl).listOf
    · rintro ⟨_, hschema', hobject⟩
      cases hschema.unique hschema'
      exact absurd hobject hkind
  | @written _ _ _ source _ v _ hg hd hrun hfull hfin hw =>
    obtain ⟨hv, hschema, htext, hends⟩ := Closed.dispatch hkeep hask hR hready hnew hb hg hd hrun
    cases htext.symm.trans hfin
    obtain ⟨rfl, hsource⟩ := hends.written hfull
    have hdeclares : (⟨l, bound, source.text⟩ : Written).Declares (Covers w v) := by
      rcases hsource with ⟨members, rfl, hmembers⟩ | ⟨style, values, rfl⟩
      · refine Or.inl ⟨members, rfl, fun m hm => ?_⟩
        obtain ⟨_, y, hy, htype | htype⟩ := hmembers m hm <;> rw [htype]
        · exact hy y rfl
        · exact (hy y rfl).mapOf
      · exact Or.inr ⟨style, values, rfl⟩
    obtain ⟨hu, hmem⟩ := hv.write hw hdeclares
    have hkeeps := Keeps.steady.produces hkeep (Produces.written hg hd hrun hfull hfin hw)
    refine ⟨hu, fun x hx => ?_, fun _ => Or.inr ⟨_, hmem, rfl⟩⟩
    cases hx
    exact hu.covers ((hkeeps.type record?_setRecord_self).trans hb.type?_self) (.written hmem rfl)

theorem Closed.responds (hstrict : f.value Feature.ignoreMissingTypes = false)
    (hground : ∀ {c}, R c → ¬Relation.TransGen w.Hop c c) (hready : Ready w R (Closed w f) s l)
    (h : Responds ask l s (.ok a) t) : Closed w f t ∧ Answers w t l a := by
  have hs := hready.holds
  cases h with
  | resolved hr hq =>
    refine ⟨hs.quiet hq, fun x hx y hy => ?_⟩
    subst hx
    exact (hs.resolved hr y hy).keep (.of_quiet hq)
  | failed hr => exact absurd hr hs.unfailed
  | pending hr hq hst =>
    have hl := (hq.record? l).trans hr
    obtain ⟨hq', ⟨-, p, hp, -, hcycle⟩ | ⟨target, n, x, hp, hobject, -, hx, hanswer⟩⟩ :=
      hst.waiting (hs.quiet hq).documents (hready.waits.keep (.of_quiet hq)) hl
    -- Nothing that is waited for lies on a circle.
    · exact absurd hcycle (hground (hready.pending ((hq.record? p).symm.trans hp)))
    · cases hanswer
      have ht := (hs.quiet hq).quiet hq'
      have hx' := (congrArg (Mappings.type? · target) hq'.mappings).trans hx
      refine ⟨ht, fun y hy => ?_⟩
      cases hy
      exact (ht.covers hx' (.promised ((hq'.record? _).trans hp) hobject hx')).nested n
  | settled hnew hb hp =>
    obtain ⟨hu, hanswer, hobject⟩ := Closed.produces hkeep hask hR hready hnew hb hp
    refine hu.settle ?_ (hb.unmapped hs.toStandard) hanswer hobject
    exact ((Keeps.steady.produces hkeep hp).type record?_setRecord_self).trans hb.type?_self
  | assumed _ hb hp hf _ =>
    have hk := Keeps.steady.produces hkeep hp
    rw [hk.features, (hs.toStandard.mark hb _).features, hstrict] at hf
    cases hf

end Ask

theorem generateWithin_closed (hR : ∀ {m m'}, R m → w.Needs m m' → R m')
    (hstrict : f.value Feature.ignoreMissingTypes = false) (hground : ∀ {c}, R c → ¬Relation.TransGen w.Hop c c) {n : Nat}
    (h : generateWithin n l s = some (.ok a, t)) (hready : Ready w R (Closed w f) s l) :
    Closed w f t ∧ Answers w t l a := by
  induction n generalizing l s a t with
  | zero => cases h
  | succ n ih =>
    obtain ⟨_, u, hn, hr, rfl⟩ := generateWithin_responds h
    cases hn
    obtain ⟨hu, ha⟩ := Closed.responds generateWithin_keeps ih hR hstrict hground hready hr
    exact ⟨hu.reply ha, fun x hx y hy => (ha x hx y hy).keep (Keeps.reply u l _)⟩

/-! ### Runs -/

theorem Closed.start (w : Setup) (f : Features) (output : Output) (files : Files) :
    Closed w f (w.start f output files) := by
  have hnone := setup_record? w f output files
  refine ⟨.start w f output files, fun {l t} => ?_, fun {l t} hr => ?_, ?_, ?_⟩
  · rw [hnone]
    simp
  · rw [hnone] at hr
    cases hr
  · rw [Setup.start, setup_frame]
    simp [new]
  · rw [Setup.start, setup_frame]
    simp [new]

theorem Covers.of_idle (hidle : ∀ p, s.record? p ≠ some .pending) (h : Covers w s y) (hx : x.OccursIn y) :
    w.Provides x ∨ ∃ e ∈ s.written, e.type = x := by
  cases h x hx with
  | provided hx => exact Or.inl hx
  | written he hx => exact Or.inr ⟨_, he, hx⟩
  | promised hp _ _ => exact absurd hp (hidle _)

/-- If every request of a run is answered with a type, no missing types are ignored, and references and arrays
    do not go in a circle, then every type that occurs in an answer, nested answers included, or in the type of
    a field of a class that was written, is provided or has a source that was written. -/
theorem references_closed {output : Output} {files : Files} {requests : List Location}
    {types : List (Option JavaType)} (hstrict : f.value Feature.ignoreMissingTypes = false)
    (hrun : (w.start f output files).generateAll requests = some (.ok types, s)) (hground : w.Grounded requests) :
    (∀ y, some y ∈ types ∨ (∃ l, .answered l (.ok (some y)) ∈ s.journal) →
      ∀ x, x.OccursIn y → w.Provides x ∨ ∃ e ∈ s.written, e.type = x) ∧
    ∀ e ∈ s.written, e.Declares fun y => ∀ x, x.OccursIn y → w.Provides x ∨ ∃ e' ∈ s.written, e'.type = x := by
  have hstart : ∀ p, (w.start f output files).record? p ≠ some .pending := by simp [setup_record?]
  obtain ⟨hs, hall⟩ := Ready.generatesAll
    (generateWithin_closed (fun h hm => h.needs hm) hstrict (fun h => hground _ h))
    (fun _ _ hk hd x hx y hy => (hd x hx y hy).keep hk) (fun l hl => ⟨l, hl, .refl⟩) (.start w f output files) hstart hrun
  have hidle : ∀ p, s.record? p ≠ some .pending := fun p hp => hstart p ((generateAll_keeps hrun).pending hp)
  refine ⟨fun y hy x hx => ?_, fun e he => (hs.written e he).mono fun y hy x => hy.of_idle hidle⟩
  rcases hy with hy | ⟨l, hl⟩
  · obtain ⟨i, hi, hget⟩ := List.mem_iff_getElem.mp hy
    exact Covers.of_idle hidle ((List.forall₂_iff_get.mp hall).2 i (by rw [hall.length_eq]; exact hi) hi y hget) hx
  · exact (hs.answered hl).of_idle hidle hx

/-- In a tree the type of a node is handed out for the list of its children before the source of a node is
    written. -/
theorem references_closed_tree : ∃ s,
    (Setup.tree.start .empty (.memory .empty []) ⟨"/", []⟩).generateAll [treeNode, treeChildren] =
      some (.ok [some (.plain "forest" "Tree"), some (JavaType.plain "forest" "Tree").listOf], s) ∧
    (∀ y, some y ∈ [some (JavaType.plain "forest" "Tree"), some (JavaType.plain "forest" "Tree").listOf] ∨
        (∃ l, .answered l (.ok (some y)) ∈ s.journal) →
      ∀ x, x.OccursIn y → Setup.tree.Provides x ∨ ∃ e ∈ s.written, e.type = x) ∧
    ∀ e ∈ s.written, e.Declares fun y =>
      ∀ x, x.OccursIn y → Setup.tree.Provides x ∨ ∃ e' ∈ s.written, e'.type = x := by
  have hrun : ((Setup.tree.start .empty (.memory .empty []) ⟨"/", []⟩).generateAll [treeNode, treeChildren]).map
      (fun r => r.1.toOption) = some (some [some (.plain "forest" "Tree"),
        some (JavaType.plain "forest" "Tree").listOf]) := by decide +kernel
  obtain ⟨⟨r, s⟩, hs, hr⟩ := Option.map_eq_some_iff.mp hrun
  cases r with
  | error e => cases hr
  | ok types =>
    cases hr
    exact ⟨s, hs, references_closed rfl hs Setup.tree_grounded⟩

end Session

end SchemaBeans
