import SchemaBeans.Proofs.Generation.Leftovers
import SchemaBeans.Proofs.Generation.Moments
import SchemaBeans.Proofs.Generation.Ownership
import SchemaBeans.Proofs.Java.Units

/-! Names that were handed out.

A type that is found for a location is handed out when it occurs in an answer (`Session.Mentions`), possibly while
the location is still pending. Its name stays in use as long as the type is bound to the location. `Reserved` says
which locations may hand out their types, and that all types that were handed out are bound or were given back by
locations on circles through arrays. `Retains` says that the others stay bound, and that no location is found a name
that was handed out. Each step of a generation keeps the one and leads on by the other, an answer if it takes back
nothing else that was handed out. -/

namespace SchemaBeans

open Java (Source)
open SchemaBeans.Numbering (candidate)

namespace Setup
variable {w : Setup} {f : Features} {O : Error → Prop} {l m p : Location} {cause : Error}

/-- Whoever asks for the location while it is pending may get its own type: it has one, or lies on a circle. -/
def HandsOut (w : Setup) (l : Location) : Prop := w.Emits l ∨ Relation.TransGen w.Hop l l

/-- No circle through the location passes through an array. -/
def ListFree (w : Setup) (l : Location) : Prop := ∀ n, w.Leads l n l → n = 0

/-- A location that lies on a circle through an array, and for which a name is found, shares its candidates with
    other locations on the circle only. -/
def Spared (w : Setup) (R : Location → Prop) : Prop :=
  ∀ {l p i j}, R l → R p → w.configured.type? l = none → w.configured.type? p = none → ¬w.ListFree l →
    candidate (typeName l) "" i = candidate (typeName p) "" j → Relation.TransGen w.Hop l p

/-! ### Circles -/

theorem Leads.circular {n : Nat} (h : w.Leads l n l) (hn : n ≠ 0) : Relation.TransGen w.Hop l l := by
  cases h with
  | here => exact absurd rfl hn
  | reference hr h => exact .head' (Or.inl hr) h.hops
  | items hl h => exact .head' (Or.inr hl) h.hops

theorem circular_of_not_listFree (h : ¬w.ListFree l) : Relation.TransGen w.Hop l l := by
  obtain ⟨n, hround, hn⟩ : ∃ n, w.Leads l n l ∧ n ≠ 0 := by simpa [ListFree] using h
  exact hround.circular hn

theorem circular_of_hop (hcycle : Relation.TransGen w.Hop l l) (hop : w.Hop l m) : Relation.TransGen w.Hop m m := by
  obtain ⟨m', hop', hback⟩ := Relation.TransGen.head'_iff.mp hcycle
  obtain rfl := hop.unique hop'
  exact .tail' hback hop

theorem circular_of_hops (hcycle : Relation.TransGen w.Hop l l) (hp : Relation.ReflTransGen w.Hop l p) :
    Relation.TransGen w.Hop p p := by
  induction hp with
  | refl => exact hcycle
  | tail _ hop ih => exact circular_of_hop ih hop

/-- A location on a circle needs the next one on the circle, and nothing else. -/
theorem hop_of_needs (hcycle : Relation.TransGen w.Hop l l) (h : w.Needs l m) : w.Hop l m := by
  obtain ⟨m', hop, -⟩ := Relation.TransGen.head'_iff.mp hcycle
  rcases h with hr | ⟨node, hs, ha⟩
  · exact Or.inl hr
  · exact (hs.object_or_hop ha).resolve_left fun ho => ho.emits.not_hop hop

theorem hops_of_needs (hcycle : Relation.TransGen w.Hop l l) (h : Relation.ReflTransGen w.Needs l p) :
    Relation.ReflTransGen w.Hop l p := by
  induction h with
  | refl => exact .refl
  | tail _ hm ih => exact ih.tail (hop_of_needs (circular_of_hops hcycle ih) hm)

/-- Nothing keeps a location on a circle from being answered. -/
theorem not_obstacle_of_circular (hcycle : Relation.TransGen w.Hop l l) : ¬w.Obstacle f O l cause := by
  obtain ⟨m, hop, -⟩ := Relation.TransGen.head'_iff.mp hcycle
  intro ho
  rcases hop with hr | ⟨node, fields, hs, hk, hi, ht⟩
  · cases ho with
    | stuck _ hrefers _ _ => exact hrefers m hr
    | failed hs _ _ _ => exact hr.not_schema hs
    | refused he _ => exact he.not_refers hr
  · have hlists : w.Lists l m := ⟨node, fields, hs, hk, hi, ht⟩
    have htyped : ¬w.Untyped m := fun h => h.not_circular (circular_of_hop hcycle (Or.inr hlists))
    cases ho with
    | stuck _ _ _ hschema => exact hschema node "array" _ hs hk rfl
    | @failed _ _ _ requested _ hs' hk' hg hfails =>
      cases hs.unique hs'
      cases hk.symm.trans hk'
      cases hg
      rw [@Generator.array_eq ⟨l, requested, node, f⟩ fields m hi ht, Plan.require] at hfails
      cases hfails with
      | @request _ _ b hb hfails =>
        cases b with
        | none => exact htyped (hb.mp rfl)
        | some y => cases hfails
    | refused he _ => exact he.not_lists hlists

end Setup

namespace Session
variable {w : Setup} {R : Location → Prop} {s t u : Session} {l m p : Location} {x y bound : JavaType} {isNew : Bool}
  {a : Option JavaType}

/-! ### Records of circles -/

/-- What is resolved is justified, and no record of a location on a circle was ever taken back. -/
def Unbroken (w : Setup) (s : Session) : Prop :=
  Tracks w .empty (fun l => ¬Relation.TransGen w.Hop l l) (fun _ => True) s

theorem Unbroken.start (w : Setup) (output : Output) (files : Files) : Unbroken w (w.start .empty output files) :=
  { Tracks.setup w .empty _ output files with refuses := fun _ => trivial }

theorem generateWithin_unbroken {n : Nat} {r : Answer} (h : generateWithin n l s = some (r, t))
    (hready : Ready w (fun _ => True) (Unbroken w) s l) : Unbroken w t := by
  cases r with
  | ok a => exact (generateWithin_tracks rfl Features.findsNew_empty h hready).1
  | error e =>
    refine (generateWithin_obstacle rfl Features.findsNew_empty (fun hp ho hcycle => ?_) h hready).1
    exact Setup.not_obstacle_of_circular (Setup.circular_of_hops hcycle (Setup.hops_of_needs hcycle hp)) ho

/-- Once a location on a circle has been answered, all locations on the circle have records. -/
theorem Unbroken.recorded (h : Unbroken w t) (hwaits : Waits w s l) (hkeeps : Keeps s t)
    (hl : t.record? l = some (.resolved a)) (hcycle : Relation.TransGen w.Hop l l)
    (hp : Relation.ReflTransGen w.Hop l p) : t.record? p ≠ none := by
  induction hp with
  | refl => simp [hl]
  | @tail q m hq hop ih =>
    obtain ⟨r, hr⟩ := Option.ne_none_iff_exists'.mp ih
    cases r with
    -- A location that was pending before waits for one that was pending too, or for the one that has been answered.
    | pending =>
      rcases hwaits.chained (hkeeps.pending hr) hop with hm | rfl
      · simp [hkeeps.record hm]
      · simp [hl]
    | resolved b =>
      have hm : Relation.TransGen w.Hop m m := Setup.circular_of_hops hcycle (hq.tail hop)
      have hknown := ((Tracks.resolved h hr).needs m hop.needs).resolve_right fun he => Tracks.erased h he hm
      exact Option.isSome_iff_ne_none.mp hknown
    | failed y => exact absurd hr (Tracks.unfailed h)

/-! ### The journal -/

theorem journal_steady : Steady fun s t => s.journal ⊆ t.journal where
  trans := fun h₁ h₂ _ he => h₂ (h₁ he)
  quiet := fun hq _ he => by rwa [hq.journal]
  write := by
    intro s l x text r t hw e he
    cases r with
    | ok =>
      obtain ⟨_, _, _, rfl⟩ := write_ok hw
      exact he
    | error =>
      obtain ⟨_, _, _, rfl⟩ := write_error hw
      exact he

theorem generateWithin_journal {n : Nat} {r : Answer} (h : generateWithin n l s = some (r, t)) :
    s.journal ⊆ t.journal ∧ .answered l r ∈ t.journal := by
  induction n generalizing l s r t with
  | zero => cases h
  | succ n ih =>
    obtain ⟨_, u, hn, hr, rfl⟩ := generateWithin_responds h
    cases hn
    refine ⟨fun e he => List.mem_cons_of_mem _ ?_, List.mem_cons_self⟩
    have hask : ∀ {m v b v'}, generateWithin n m v = some (b, v') → v.journal ⊆ v'.journal := fun h => (ih h).1
    have hmarked : ∀ {bound isNew v}, Binds s l bound isNew v → e ∈ (v.setRecord l .pending).journal := by
      intro bound isNew v hb
      rw [hb.journal_mark]
      exact List.mem_cons_of_mem _ he
    cases hr with
    | resolved _ hq => rwa [hq.journal]
    | failed _ => exact he
    | pending _ hq hs =>
      rw [← hq.journal] at he
      exact journal_steady.stands hask hs he
    | settled _ hb hp =>
      rw [journal_settle]
      exact List.mem_cons_of_mem _ (journal_steady.produces hask hp (hmarked hb))
    | assumed _ hb hp _ hq =>
      refine List.mem_cons_of_mem _ ?_
      rw [hq.journal]
      exact journal_steady.produces hask hp (hmarked hb)
    | forgotten _ hb hp _ => exact List.mem_cons_of_mem _ (journal_steady.produces hask hp (hmarked hb))

/-- A type has been handed out: it occurs in an answer. -/
def Mentions (s : Session) (x : JavaType) : Prop := ∃ l y, .answered l (.ok (some y)) ∈ s.journal ∧ x.OccursIn y

theorem Mentions.mono (h : s.Mentions x) (hst : s.journal ⊆ t.journal) : t.Mentions x := by
  obtain ⟨l, y, he, hx⟩ := h
  exact ⟨l, y, hst he, hx⟩

theorem Mentions.of_mark (hb : Binds s l bound isNew t) (hq : Quiet (t.setRecord l .pending) u) (h : u.Mentions x) :
    s.Mentions x := by
  obtain ⟨m, y, he, hx⟩ := h
  rw [hq.journal, hb.journal_mark] at he
  rcases List.mem_cons.mp he with he | he
  · cases he
  · exact ⟨m, y, he, hx⟩

/-! ### Reserved names -/

/-- Types found for locations that were handed out stay bound to them, unless these lie on circles through arrays. No
    location is found a name that was handed out, and locations end with types of different names. -/
structure Retains (w : Setup) (R : Location → Prop) (s t : Session) : Prop where
  journal : s.journal ⊆ t.journal
  bound : ∀ {l x}, w.configured.type? l = none → (R l → w.ListFree l) → s.Mentions x → s.mappings.type? l = some x →
    t.mappings.type? l = some x
  spared : ∀ {l y}, t.mappings.type? l = some y → s.mappings.type? l = some y ∨
    ∀ x, s.Mentions x → x.identity ≠ y.identity
  apart : t.mappings.Apart

namespace Retains

theorem of_mappings (ha : s.mappings.Apart) (hj : t.journal = s.journal) (hm : t.mappings = s.mappings) : Retains w R s t :=
  ⟨fun _ he => by rwa [hj], fun _ _ _ hx => by rwa [hm], fun hy => Or.inl (by rwa [hm] at hy), by rwa [hm]⟩

theorem refl (ha : s.mappings.Apart) : Retains w R s s := .of_mappings ha rfl rfl

theorem trans (h₁ : Retains w R s t) (h₂ : Retains w R t u) : Retains w R s u where
  journal := fun _ he => h₂.journal (h₁.journal he)
  bound := fun hc hl hm hx => h₂.bound hc hl (hm.mono h₁.journal) (h₁.bound hc hl hm hx)
  spared := fun hy => (h₂.spared hy).elim h₁.spared fun hnew => Or.inr fun x hx => hnew x (hx.mono h₁.journal)
  apart := h₂.apart

theorem skip (ha : s.mappings.Apart) (hq : Quiet s t) : Threads (Retains w R) s [] t :=
  .skip (.of_mappings ha hq.journal hq.mappings) hq.journal

theorem after {path : List Session} (ha : s.mappings.Apart) (hq : Quiet s t) (h : Threads (Retains w R) t path u) :
    Threads (Retains w R) s path u :=
  (skip ha hq).append h trans

end Retains

theorem Binds.numbered (h : s.Standard w .empty) (hb : Binds s l bound true t) :
    ∃ k, bound = .plain Feature.defaultPackage.default (candidate (typeName l) "" k) := by
  cases hb with
  | found _ _ hunique =>
    obtain ⟨k, rfl, -, -⟩ := Names.unique_numbered hunique
    exact ⟨k, by rw [h.features]; rfl⟩

theorem Standard.default (h : s.Standard w .empty) (hc : w.configured.type? l = none) (hx : s.mappings.type? l = some x) :
    x.package = Feature.defaultPackage.default := by
  rcases h.named hx with hc' | ⟨-, hp, -⟩
  · rw [hc] at hc'
    cases hc'
  · exact hp

/-- The type was found for a location on a circle through an array, and all locations on the circle have records. -/
def GivenBack (w : Setup) (R : Location → Prop) (s : Session) (x : JavaType) : Prop :=
  ∃ l k, R l ∧ w.configured.type? l = none ∧ ¬w.ListFree l ∧
    x = .plain Feature.defaultPackage.default (candidate (typeName l) "" k) ∧
    ∀ p, Relation.TransGen w.Hop l p → s.record? p ≠ none

theorem GivenBack.mono (h : s.GivenBack w R x)
    (hrecord : ∀ p, Relation.TransGen w.Hop p p → s.record? p ≠ none → t.record? p ≠ none) : t.GivenBack w R x := by
  obtain ⟨l, k, hl, hc, hlist, hx, hcircle⟩ := h
  refine ⟨l, k, hl, hc, hlist, hx, fun p hp => hrecord p ?_ (hcircle p hp)⟩
  exact Setup.circular_of_hops (Setup.circular_of_not_listFree hlist) hp.to_reflTransGen

/-- A type of the default package that was handed out is bound to a location or was given back, and one that was found
    for a location is handed out only if the location has a type of its own or lies on a circle. -/
structure Reserved (w : Setup) (R : Location → Prop) (s : Session) : Prop extends Standard w .empty s where
  told : ∀ {l r a}, s.record? l = some r → r.answer? = some a → .answered l (.ok a) ∈ s.journal
  held : ∀ {x}, s.Mentions x → x.package = Feature.defaultPackage.default →
    (∃ l, s.mappings.type? l = some x) ∨ s.GivenBack w R x
  own : ∀ {l x}, w.configured.type? l = none → s.mappings.type? l = some x → s.Mentions x → w.HandsOut l

namespace Reserved

theorem congr (h : Reserved w R s) (hs : t.Standard w .empty) (hr : t.records = s.records) (hj : t.journal = s.journal)
    (hmappings : t.mappings = s.mappings) : Reserved w R t := by
  have hmention : ∀ {x}, t.Mentions x → s.Mentions x := fun hx => hx.mono fun _ he => by rwa [hj] at he
  have hrecord : ∀ p, t.record? p = s.record? p := fun p => by rw [record?, record?, hr]
  refine ⟨hs, fun {m r b} hm hb => ?_, fun hx hdefault => ?_, fun hc hx hmx => ?_⟩
  · rw [hrecord] at hm
    rw [hj]
    exact h.told hm hb
  · rw [hmappings]
    exact (h.held (hmention hx) hdefault).imp_right fun hback => hback.mono fun p _ hp => by rwa [hrecord]
  · rw [hmappings] at hx
    exact h.own hc hx (hmention hmx)

theorem quiet (h : Reserved w R s) (hq : Quiet s t) : Reserved w R t :=
  h.congr (h.toStandard.quiet hq) hq.records hq.journal hq.mappings

theorem write {path : List Session} {text : String} {r : Except Error Unit} (h : Reserved w R s)
    (hpath : Threads (Retains w R) u path s) (hw : s.write l x text = (r, t)) :
    Reserved w R t ∧ Threads (Retains w R) u path t := by
  have hs := Standard.steady.write hw h.toStandard
  have hsame : t.records = s.records ∧ t.journal = s.journal ∧ t.mappings = s.mappings := by
    cases r with
    | ok =>
      obtain ⟨_, _, _, rfl⟩ := write_ok hw
      exact ⟨rfl, rfl, rfl⟩
    | error =>
      obtain ⟨_, _, _, rfl⟩ := write_error hw
      exact ⟨rfl, rfl, rfl⟩
  obtain ⟨hrecords, hjournal, hmappings⟩ := hsame
  have hlast := hpath.append (.skip (.of_mappings hpath.across.apart hjournal hmappings) hjournal) Retains.trans
  rw [List.append_nil] at hlast
  exact ⟨h.congr hs hrecords hjournal hmappings, hlast⟩

section New
variable (h : Reserved w R s) (ho : Owns s) (hspared : w.Spared R) (hl : R l) (hnew : s.record? l = none)
include h ho hspared hl hnew

/-- A name that was handed out is in use, or was given back and is shared by locations with records only. -/
theorem fresh (hb : Binds s l bound true t) (hx : s.Mentions x) : x.identity ≠ bound.identity := by
  intro heq
  have hdefault : x.package = Feature.defaultPackage.default := (Prod.mk.inj heq).1.trans
    ((h.toStandard.mark hb .pending).default (hb.unmapped h.toStandard rfl) hb.type?_self)
  cases hb with
  | found hnone hq hunique =>
    rcases h.held hx hdefault with ⟨p, hp⟩ | ⟨p, i, hp, hc, hlist, rfl, hcircle⟩
    · exact Names.unique_free hunique (heq ▸ ho.taken hp)
    · obtain ⟨j, rfl, -, -⟩ := Names.unique_numbered hunique
      exact hcircle l (hspared hp hl hc (h.unmapped hnone) hlist (Prod.mk.inj heq).2) hnew

theorem mark (hb : Binds s l bound isNew t) : Reserved w R (t.setRecord l .pending) ∧
    Threads (Retains w R) s [t.setRecord l .pending] (t.setRecord l .pending) := by
  have hjournal := hb.journal_mark .pending
  have hmention : ∀ {x}, (t.setRecord l .pending).Mentions x → s.Mentions x := .of_mark hb (Quiet.refl _)
  have hretains : Retains w R s (t.setRecord l .pending) := by
    refine ⟨fun _ he => hjournal ▸ List.mem_cons_of_mem _ he, fun _ _ _ hx => hb.type?_of_some hx, fun {m y} hy => ?_,
      (ho.bind hb).apart⟩
    by_cases hml : m = l
    · subst hml
      cases isNew with
      | false =>
        cases hb with
        | held _ => exact Or.inl hy
      | true =>
        cases hb.type?_self.symm.trans hy
        exact Or.inr fun _ => h.fresh ho hspared hl hnew hb
    · exact Or.inl ((hb.type?_of_ne hml).symm.trans hy)
  refine ⟨⟨h.toStandard.mark hb _, fun {m r b} hr hb' => ?_, fun hx hdefault => ?_, fun {m x} hc hx hmx => ?_⟩,
    .reach hretains (.refl hretains.apart) fun {e} _ he => ?_⟩
  · have hpending : r ≠ .pending := by
      rintro rfl
      cases hb'
    exact hretains.journal (h.told (hb.record?_of_mark hr hpending) hb')
  · rcases h.held (hmention hx) hdefault with ⟨p, hp⟩ | hback
    · exact Or.inl ⟨p, hb.type?_of_some hp⟩
    · refine Or.inr (hback.mono fun p _ hp => ?_)
      by_cases hpl : p = l
      · simp [hpl]
      · rwa [hb.record?_mark_of_ne hpl]
  · have hold := hmention hmx
    by_cases hml : m = l
    · subst hml
      -- A type that was found now has not been handed out; one that was bound before is as it was.
      cases isNew with
      | false =>
        cases hb with
        | held _ => exact h.own hc hx hold
      | true =>
        cases hb.type?_self.symm.trans hx
        exact absurd rfl (h.fresh ho hspared hl hnew hb hold)
    · exact h.own hc ((hb.type?_of_ne hml).symm.trans hx) hold
  · rw [hjournal] at he ⊢
    exact (List.mem_cons.mp he).symm.imp_right fun heq => by rw [heq]; rfl

end New

/-- An answer keeps names reserved if what occurs in it was handed out before or is bound to a location that may hand
    it out, and if nothing that was handed out is taken back with it, except on a circle through an array. -/
theorem answer {r : Answer} (h : Reserved w R s) (events : List Event) (ho : Owns t) (hs : t.Standard w .empty)
    (hj : t.journal = .answered l r :: (events ++ s.journal)) (hevents : ∀ e ∈ events, e.isMoment = false)
    (hrecord : ∀ {p r' b}, t.record? p = some r' → r'.answer? = some b → s.record? p = some r' ∨ (p = l ∧ r = .ok b))
    (hcircle : ∀ p, Relation.TransGen w.Hop p p → s.record? p ≠ none → t.record? p ≠ none)
    (hkept : ∀ {p x}, s.mappings.type? p = some x → t.mappings.type? p = some x ∨ ¬s.Mentions x ∨
      (R p ∧ ¬w.ListFree p ∧ t.GivenBack w R x))
    (hback : ∀ {p x}, t.mappings.type? p = some x → s.mappings.type? p = some x)
    (hnew : ∀ {y x : JavaType}, r = .ok (some y) → x.OccursIn y → x.package = Feature.defaultPackage.default →
      s.Mentions x ∨ ∃ p, t.mappings.type? p = some x ∧ (w.configured.type? p = none → w.HandsOut p)) :
    Reserved w R t ∧ Threads (Retains w R) s [t] t := by
  have hsub : s.journal ⊆ t.journal := by
    intro e he
    rw [hj]
    exact List.mem_cons_of_mem _ (List.mem_append_right _ he)
  -- The answer is the only event that counts as a moment.
  have hmoment : ∀ {e : Event}, e.isMoment = true → e ∈ t.journal → e ∈ s.journal ∨ e = .answered l r := by
    intro e hmoment he
    rw [hj] at he
    rcases List.mem_cons.mp he with rfl | he
    · exact Or.inr rfl
    · rcases List.mem_append.mp he with he | he
      · rw [hevents e he] at hmoment
        cases hmoment
      · exact Or.inl he
  have hcases : ∀ {x}, t.Mentions x → x.package = Feature.defaultPackage.default → s.Mentions x ∨
      ∃ p, t.mappings.type? p = some x ∧ (w.configured.type? p = none → w.HandsOut p) := by
    rintro x ⟨p, y, he, hx⟩ hdefault
    rcases hmoment rfl he with he | he
    · exact Or.inl ⟨p, y, he, hx⟩
    · cases he
      exact hnew rfl hx hdefault
  have hretains : Retains w R s t := by
    refine ⟨hsub, fun _ hl hx hp => ?_, fun hy => Or.inl (hback hy), ho.apart⟩
    rcases hkept hp with hp | hunsaid | ⟨hr, hlist, -⟩
    · exact hp
    · exact absurd hx hunsaid
    · exact absurd (hl hr) hlist
  refine ⟨⟨hs, fun {p r' b} hp hb => ?_, fun hx hdefault => ?_, fun {p x} hc hp hx => ?_⟩,
    .reach hretains (.refl ho.apart) fun he hmem => (hmoment he hmem).imp_right fun heq => by rw [hj, heq]; rfl⟩
  · rcases hrecord hp hb with hp | ⟨rfl, rfl⟩
    · exact hsub (h.told hp hb)
    · rw [hj]
      exact List.mem_cons_self
  · rcases hcases hx hdefault with hx | ⟨p, hp, -⟩
    · rcases h.held hx hdefault with ⟨p, hp⟩ | hgiven
      · rcases hkept hp with hp | hunsaid | ⟨-, -, hgiven⟩
        · exact Or.inl ⟨p, hp⟩
        · exact absurd hx hunsaid
        · exact Or.inr hgiven
      · exact Or.inr (hgiven.mono hcircle)
    · exact Or.inl ⟨p, hp⟩
  · rcases hcases hx (h.default hc (hback hp)) with hx | ⟨q, hq, hown⟩
    · exact h.own hc (hback hp) hx
    -- Names are apart, so the two locations are the same.
    · cases ho.apart hq hp rfl
      exact hown hc

theorem reply {r : Answer} (h : Reserved w R s) (ho : Owns s) (hq : Quiet s t)
    (hnew : ∀ {y x : JavaType}, r = .ok (some y) → x.OccursIn y → x.package = Feature.defaultPackage.default →
      s.Mentions x ∨ ∃ p, s.mappings.type? p = some x ∧ (w.configured.type? p = none → w.HandsOut p)) :
    Reserved w R (t.reply l r) ∧ Threads (Retains w R) s [t.reply l r] (t.reply l r) := by
  have hs := (h.quiet hq).toStandard.congr (Keeps.reply t l r).toSameSetup rfl
  have hmappings : (t.reply l r).mappings = s.mappings := hq.mappings
  have hjournal : (t.reply l r).journal = .answered l r :: ([] ++ s.journal) := by
    rw [List.nil_append, ← hq.journal]
    rfl
  refine h.answer [] ((ho.of_quiet hq).congr rfl rfl rfl) hs hjournal (by simp) (fun hp _ => Or.inl ?_)
    (fun p _ hp => ?_) (fun hp => Or.inl ?_) (fun hp => ?_) fun hr hx hdefault => ?_
  · exact (hq.record? _).symm.trans hp
  · exact fun hnone => hp ((hq.record? p).symm.trans hnone)
  · rwa [hmappings]
  · rwa [hmappings] at hp
  · rw [hmappings]
    exact hnew hr hx hdefault

/-- A location is answered. It gives its type back if that is not the answer, which must not have been handed out
    unless the location lies on a circle through an array. -/
theorem settle (h : Reserved w R s) (ho : Owns ((s.settle l bound isNew a).reply l (.ok a)))
    (hbound : s.mappings.type? l = some bound) (hunmapped : isNew = true → w.configured.type? l = none)
    (hkept : isNew = true → s.Mentions bound → a ≠ some bound → R l ∧ ¬w.ListFree l ∧
      ((s.settle l bound isNew a).reply l (.ok a)).GivenBack w R bound)
    (hnew : ∀ {y x : JavaType}, a = some y → x.OccursIn y → x.package = Feature.defaultPackage.default →
      s.Mentions x ∨ y = bound ∧ x = bound ∧ w.Emits l) :
    Reserved w R ((s.settle l bound isNew a).reply l (.ok a)) ∧
      Threads (Retains w R) s [(s.settle l bound isNew a).reply l (.ok a)] ((s.settle l bound isNew a).reply l (.ok a)) := by
  have hs := (h.toStandard.settle (a := a) hbound hunmapped).congr (Keeps.reply _ l (.ok a)).toSameSetup rfl
  have hjournal : ((s.settle l bound isNew a).reply l (.ok a)).journal =
      .answered l (.ok a) :: ([.recorded l (.resolved a)] ++ s.journal) := by
    rw [Session.reply, journal_settle]
    rfl
  refine h.answer _ ho hs hjournal (by simp [Event.isMoment]) (fun hp hb => ?_) (fun p _ hp => ?_) (fun {p x} hp => ?_)
    (fun hp => type?_of_settle hp) fun {y x} hr hx hdefault => ?_
  · rcases record?_of_settle hp with ⟨rfl, rfl⟩ | hp
    · cases hb
      exact Or.inr ⟨rfl, rfl⟩
    · exact Or.inl hp
  · show (s.settle l bound isNew a).record? p ≠ none
    by_cases hpl : p = l
    · simp [hpl]
    · rwa [record?_settle_of_ne hpl]
  · by_cases hpl : p = l
    · subst hpl
      cases hbound.symm.trans hp
      -- A type is given back only if it is not the answer.
      by_cases hrelease : (isNew && a ≠ some bound) = true
      · obtain ⟨hisNew, hne⟩ : isNew = true ∧ a ≠ some bound := by simpa using hrelease
        by_cases hm : s.Mentions bound
        · exact Or.inr (Or.inr (hkept hisNew hm hne))
        · exact Or.inr (Or.inl hm)
      · have hself : (s.settle p bound isNew a).mappings.type? p = s.mappings.type? p := by
          rw [type?_settle_self, if_neg hrelease]
        exact Or.inl (hself.trans hbound)
    · exact Or.inl ((type?_settle_of_ne hpl).trans hp)
  · cases hr
    rcases hnew rfl hx hdefault with hm | ⟨rfl, rfl, hemits⟩
    · exact Or.inl hm
    · have hself : (s.settle l x isNew (some x)).mappings.type? l = s.mappings.type? l := by simp [type?_settle_self]
      exact Or.inr ⟨l, hself.trans hbound, fun _ => Or.inl hemits⟩

theorem erase {e : Error} (h : Reserved w R s) (ho : Owns ((s.eraseRecord l).reply l (.error e)))
    (hcycle : ¬Relation.TransGen w.Hop l l) : Reserved w R ((s.eraseRecord l).reply l (.error e)) ∧
      Threads (Retains w R) s [(s.eraseRecord l).reply l (.error e)] ((s.eraseRecord l).reply l (.error e)) := by
  refine h.answer [.erased l] ho (h.toStandard.congr ⟨rfl, rfl, rfl, .same rfl rfl⟩ rfl) rfl (by simp [Event.isMoment])
    (fun {p r b} hp _ => Or.inl ?_) (fun p hp hr => ?_) (fun hp => Or.inl hp) (fun hp => hp) fun hr => by cases hr
  · have hpl : p ≠ l := by
      rintro rfl
      cases record?_eraseRecord_self.symm.trans hp
    exact (record?_eraseRecord_of_ne hpl).symm.trans hp
  · have hpl : p ≠ l := by
      rintro rfl
      exact hcycle hp
    show (s.eraseRecord l).record? p ≠ none
    rwa [record?_eraseRecord_of_ne hpl]

end Reserved

/-- Names are reserved, circles are answered as a whole, and no request is being answered by a generator that has
    written its source. -/
structure Guarded (w : Setup) (R : Location → Prop) (s : Session) : Prop extends Managed s, Reserved w R s where
  unbroken : Unbroken w s

theorem Ready.unbroken (h : Ready w R (Guarded w R) s l) : Ready w (fun _ => True) (Unbroken w) s l :=
  ⟨h.holds.unbroken, h.waits, fun _ => trivial, trivial⟩

theorem Guarded.quiet (h : Guarded w R s) (hq : Quiet s t) : Guarded w R t :=
  ⟨h.toManaged.of_quiet hq, h.toReserved.quiet hq, Tracks.quiet h.unbroken hq⟩

theorem Guarded.mark (h : Guarded w R s) (hspared : w.Spared R) (hl : R l) (hnew : s.record? l = none)
    (hb : Binds s l bound isNew t) : Guarded w R (t.setRecord l .pending) :=
  ⟨h.toManaged.mark hnew hb, (h.toReserved.mark h.toOwns hspared hl hnew hb).1,
    Tracks.mark Features.findsNew_empty h.unbroken hb⟩

/-! ### Pending locations -/

theorem Stands.hands_out {ask : Location → Session → Outcome (Option JavaType)} {r : Answer} (h : Stands ask l s r t)
    (ho : s.Over w.documents) (hwaits : Waits w s l) (hl : s.record? l = some .pending) :
    Quiet s t ∧ ∃ p n x, r = .ok (some (nested n x)) ∧ s.mappings.type? p = some x ∧ w.HandsOut p := by
  obtain ⟨hq, ⟨rfl, p, -, hlead, hcycle⟩ | ⟨target, n, x, -, hobject, -, hx, rfl⟩⟩ := h.waiting ho hwaits hl
  · obtain ⟨x, hx⟩ := hwaits.bound hl
    exact ⟨hq, l, 0, x, by rw [hx]; rfl, hx, Or.inr (hwaits.circular hl hlead hcycle)⟩
  · exact ⟨hq, target, n, x, rfl, hx, Or.inl hobject.emits⟩

theorem pendingRequests_waiting (ho : s.Over w.documents) (hwaits : Waits w s l) (hl : s.record? l = some .pending) :
    pendingRequests l s = [] := by
  unfold pendingRequests
  split
  · rename_i target lists t hw
    rcases (walk_follows List.nodup_nil (by simp) (by simp) hw).waiting ho hwaits hl hl (by simp) with
      ⟨hr, -⟩ | ⟨_, n, hr, hp, -⟩ <;> cases hr
    have hpending : t.isPending target = true := by rw [(walk_quiet hw).isPending, isPending_iff.mpr hp]
    simp [hpending]
  · rfl

end Session

end SchemaBeans
