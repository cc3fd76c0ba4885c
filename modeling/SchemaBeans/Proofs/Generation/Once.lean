import Mathlib.Logic.Relation
import SchemaBeans.Proofs.Generation.Keeps

/-! A location is generated at most once.

The journal of a session tells in which order records were made and requests were answered, nested ones
included. In every run, whatever the generators do, no entry about a location follows the one that
finished it except answers that repeat its type (`Event.Respects`), and at most one source is written for
it: a location is settled right after its source was written, and a settled location is never produced
again. -/

namespace SchemaBeans

/-! ### Runs -/

namespace Session

/-- What can be done with a session from the outside. A request may be answered within any bound. -/
inductive Step : Session → Session → Prop
  | addMapping (s : Session) (mapping : Mapping) : Step s (s.addMapping mapping)
  | setText {s t : Session} {key text : String} : s.setText key text = .ok t → Step s t
  | setFeature {α : Type} [FeatureType α] {s t : Session} {feature : Feature α} {value previous : α} :
      s.setFeature feature value = .ok (previous, t) → Step s t
  | addExisting (s : Session) (name : String) : Step s (s.addExisting name)
  | register (s : Session) (kind : String) (generator : Generator) : Step s (s.register kind generator)
  | request {s t : Session} {fuel : Nat} {l : Location} {a : Answer} :
      generateWithin fuel l s = some (a, t) → Step s t

/-- The sessions that runs lead to. -/
inductive Reachable : Session → Prop
  | new (catalog : Catalog) (output : Output) (files : Files) : Reachable (Session.new catalog output files)
  | step {s t : Session} : Reachable s → Step s t → Reachable t

section Configuration
variable {s t : Session}

theorem setText_frame {key text : String} (h : s.setText key text = .ok t) : t = { s with features := t.features } := by
  unfold Session.setText at h
  cases hf : s.features.setText key text <;> rw [hf] at h <;> cases h
  rfl

theorem setFeature_frame {α : Type} [FeatureType α] {feature : Feature α} {value previous : α}
    (h : s.setFeature feature value = .ok (previous, t)) : t = { s with features := t.features } := by
  unfold Session.setFeature at h
  cases hf : s.features.set feature value <;> rw [hf] at h <;> cases h
  rfl

end Configuration

theorem Step.cases {s t : Session} (h : Step s t) :
    (t.records = s.records ∧ t.journal = s.journal ∧ t.written = s.written) ∨
      ∃ fuel l a, generateWithin fuel l s = some (a, t) := by
  cases h with
  | addMapping s mapping => exact Or.inl ⟨rfl, rfl, rfl⟩
  | setText h =>
    rw [setText_frame h]
    exact Or.inl ⟨rfl, rfl, rfl⟩
  | setFeature h =>
    rw [setFeature_frame h]
    exact Or.inl ⟨rfl, rfl, rfl⟩
  | addExisting s name => exact Or.inl ⟨rfl, rfl, rfl⟩
  | register s kind generator => exact Or.inl ⟨rfl, rfl, rfl⟩
  | request h => exact Or.inr ⟨_, _, _, h⟩

end Session

/-- What a finished location is answered with. -/
def Record.answer? : Record → Option (Option JavaType)
  | .pending => none
  | .resolved type => some type
  | .failed type => some (some type)

/-- An event respects an earlier one: a location that was finished is neither recorded nor erased again,
    and is answered with its type. -/
def Event.Respects (later earlier : Event) : Prop :=
  ∀ l r a, earlier = .recorded l r → r.answer? = some a →
    (∀ r', later ≠ .recorded l r') ∧ later ≠ .erased l ∧ ∀ b, later = .answered l b → b = .ok a

namespace Session

/-! ### The journal -/

/-- The journal agrees with the records and with what was written. The location `busy` may have been
    written although it is not settled yet. -/
structure Orderly (busy : Option Location) (s : Session) : Prop where
  noted : ∀ {l r}, s.record? l = some r → .recorded l r ∈ s.journal
  current : ∀ {l r a}, .recorded l r ∈ s.journal → r.answer? = some a → s.record? l = some r
  order : s.journal.Pairwise Event.Respects
  written : ∀ w ∈ s.written, busy = some w.location ∨ ∃ a, s.record? w.location = some (.resolved a)
  once : (s.written.map (·.location)).Nodup

namespace Orderly
variable {s t u v : Session} {busy : Option Location} {l : Location}

theorem congr (h : Orderly busy s) (hr : t.records = s.records) (hj : t.journal = s.journal)
    (hw : t.written = s.written) : Orderly busy t := by
  have hrec : ∀ m, t.record? m = s.record? m := fun m => by rw [record?, record?, hr]
  refine ⟨fun {m r} hm => ?_, fun {m r a} hm ha => ?_, hj ▸ h.order, fun w hm => ?_, hw ▸ h.once⟩
  · rw [hj]
    exact h.noted ((hrec m).symm.trans hm)
  · rw [hj] at hm
    exact (hrec m).trans (h.current hm ha)
  · rw [hw] at hm
    rw [hrec]
    exact h.written w hm

theorem of_quiet (h : Orderly busy s) (hq : Quiet s t) : Orderly busy t :=
  h.congr hq.records hq.journal hq.written

theorem calm : Calm fun s t => Orderly none s → Orderly none t :=
  .invariant fun hq h => h.of_quiet hq

theorem weaken (h : Orderly none s) : Orderly busy s where
  noted := h.noted
  current := h.current
  order := h.order
  written := fun w hw => Or.inr ((h.written w hw).resolve_left (by simp))
  once := h.once

theorem change (h : Orderly busy s) (hl : ∀ r, s.record? l = some r → r.answer? = none) {e : Event}
    (he : (∃ r, e = .recorded l r ∧ t.record? l = some r) ∨ e = .erased l ∧ t.record? l = none)
    (hoff : ∀ m, m ≠ l → t.record? m = s.record? m) (hj : t.journal = e :: s.journal)
    (hw : t.written = s.written)
    (hbusy : ∀ b, busy = some b → b = l ∧ ∃ a, t.record? l = some (.resolved a)) :
    Orderly none t := by
  -- A finished location still has its record, so it is not the one that changes.
  have hfresh : ∀ {m r a}, .recorded m r ∈ s.journal → r.answer? = some a → m ≠ l := by
    rintro m r a hm ha rfl
    rw [hl r (h.current hm ha)] at ha
    cases ha
  refine ⟨fun {m r} hm => ?_, fun {m r a} hm ha => ?_, ?_, fun w hmem => Or.inr ?_, hw ▸ h.once⟩
  · rw [hj]
    by_cases hml : m = l
    · subst hml
      rcases he with ⟨r', rfl, hr'⟩ | ⟨-, hr'⟩
      · rw [hm] at hr'
        cases hr'
        exact List.mem_cons_self
      · rw [hm] at hr'
        cases hr'
    · exact List.mem_cons_of_mem _ (h.noted ((hoff m hml).symm.trans hm))
  · rw [hj] at hm
    rcases List.mem_cons.mp hm with hm | hm
    · rcases he with ⟨r', rfl, hr'⟩ | ⟨rfl, -⟩ <;> cases hm
      exact hr'
    · rw [hoff m (hfresh hm ha)]
      exact h.current hm ha
  · rw [hj, List.pairwise_cons]
    refine ⟨?_, h.order⟩
    rintro _ hm m r a rfl ha
    have hml := hfresh hm ha
    rcases he with ⟨r', rfl, -⟩ | ⟨rfl, -⟩
    · exact ⟨fun _ heq => hml (by cases heq; rfl), by simp, by simp⟩
    · exact ⟨by simp, fun heq => hml (by cases heq; rfl), by simp⟩
  · rw [hw] at hmem
    rcases h.written w hmem with hb | ⟨a, ha⟩
    · obtain ⟨hwl, ha⟩ := hbusy _ hb
      exact hwl ▸ ha
    · have hwl : w.location ≠ l := by
        rintro hwl
        have := hl _ (hwl ▸ ha)
        cases this
      exact ⟨a, (hoff _ hwl).trans ha⟩

theorem mark (h : Orderly none s) (hl : s.record? l = none) : Orderly none (s.setRecord l .pending) :=
  h.change (fun r hr => by rw [hl] at hr; cases hr) (Or.inl ⟨.pending, rfl, record?_setRecord_self⟩)
    (fun _ hm => record?_setRecord_of_ne hm) rfl rfl (fun _ hb => by cases hb)

theorem bind {bound : JavaType} {isNew : Bool} (h : Orderly none s) (hb : Binds s l bound isNew t) :
    Orderly none t := by
  refine h.congr ?_ ?_ ?_ <;> rw [hb.frame]

theorem write {type : JavaType} {text : String} (h : Orderly none s) (hl : s.record? l = some .pending)
    (hw : s.write l type text = (.ok (), t)) : Orderly (some l) t := by
  -- What was written before belongs to resolved locations, and this one is pending.
  have hnot : l ∉ s.written.map (·.location) := by
    intro hmem
    obtain ⟨w, hm, rfl⟩ := List.mem_map.mp hmem
    rcases h.written w hm with hb | ⟨a, ha⟩
    · cases hb
    · rw [hl] at ha
      cases ha
  obtain ⟨_, _, _, rfl⟩ := write_ok hw
  refine ⟨h.noted, h.current, h.order, fun w hm => ?_, ?_⟩
  · rcases List.mem_append.mp hm with hm | hm
    · have hl' : Orderly (some l) s := h.weaken
      exact hl'.written w hm
    · obtain rfl := List.mem_singleton.mp hm
      exact Or.inl rfl
  · show ((s.written ++ _).map _).Nodup
    rw [List.map_append, List.nodup_append]
    refine ⟨h.once, by simp, ?_⟩
    rintro m hm _ hlast rfl
    obtain rfl := List.mem_singleton.mp hlast
    exact hnot hm

theorem unwritten {type : JavaType} {text : String} {e : Error} (h : Orderly none s)
    (hw : s.write l type text = (.error e, t)) : Orderly none t := by
  obtain ⟨_, _, _, rfl⟩ := write_error hw
  exact h.congr rfl rfl rfl

section Ask
variable {ask : Location → Session → Outcome (Option JavaType)}
  (hkeep : ∀ {l s a t}, ask l s = some (a, t) → Keeps s t)
  (hask : ∀ {l s a t}, ask l s = some (a, t) → Orderly none s → Orderly none t)
include hkeep hask

/-- A source is the last thing written before a type is there, and nothing is written on a failure. -/
theorem produces {requested : JavaType} {a : Answer} (h : Orderly none s) (hl : s.record? l = some .pending)
    (hp : Produces ask l requested s a t) : Orderly (some l) t ∧ ∀ e, a = .error e → Orderly none t := by
  have hopen : ∀ node, Orderly none (s.opened l node) := fun node => h.of_quiet (opened_quiet s l node)
  have plain : Orderly none t → Orderly (some l) t ∧ ∀ e, a = .error e → Orderly none t :=
    fun ht => ⟨ht.weaken, fun _ _ => ht⟩
  cases hp with
  | given _ => exact plain h
  | refused _ _ hq => exact plain (h.of_quiet hq)
  | reference _ _ _ ha => exact plain (hask ha (h.of_quiet (redirected_quiet _ _ _)))
  | null _ _ _ => exact plain (hopen _)
  | failed _ _ hrun => exact plain (calm.run hask hrun (hopen _))
  | silent _ _ hrun _ => exact plain (calm.run hask hrun (hopen _))
  | unwritten _ _ hrun _ _ hw => exact plain ((calm.run hask hrun (hopen _)).unwritten hw)
  | @written node _ _ _ _ u _ _ _ hrun _ _ hw =>
    have hu : u.record? l = some .pending :=
      (Keeps.steady.run hkeep hrun).record (((opened_quiet s l node).record? l).trans hl)
    exact ⟨(calm.run hask hrun (hopen _)).write hu hw, fun _ he => by cases he⟩

theorem responds {a : Answer} (h : Orderly none s) (hr : Responds ask l s a t) : Orderly none t := by
  -- The location stays pending while its type is produced, so it is not finished yet.
  have hproduce : ∀ {bound isNew t u} {a : Answer}, s.record? l = none → Binds s l bound isNew t →
      Produces ask l bound (t.setRecord l .pending) a u →
      (∀ r, u.record? l = some r → r.answer? = none) ∧ Orderly (some l) u ∧ ∀ e, a = .error e → Orderly none u := by
    intro bound isNew t u a hnew hb hp
    have hmark := (h.bind hb).mark ((hb.record? l).trans hnew)
    refine ⟨fun r hr => ?_, produces hkeep hask hmark record?_setRecord_self hp⟩
    rw [(Keeps.steady.produces hkeep hp).record record?_setRecord_self] at hr
    cases hr
    rfl
  cases hr with
  | resolved _ hq => exact h.of_quiet hq
  | failed _ => exact h
  | pending _ hq hs => exact calm.stands hask hs (h.of_quiet hq)
  | settled hnew hb hp =>
    obtain ⟨hu, ho, -⟩ := hproduce hnew hb hp
    exact ho.change hu (Or.inl ⟨_, rfl, record?_settle_self⟩) (fun _ hm => record?_settle_of_ne hm)
      (by rw [settle_frame]) (by rw [settle_frame])
      (fun _ hbusy => ⟨(Option.some.inj hbusy).symm, _, record?_settle_self⟩)
  | assumed hnew hb hp _ hq =>
    obtain ⟨hu, -, ho⟩ := hproduce hnew hb hp
    exact ((ho _ rfl).of_quiet hq).change (fun r hr => hu r ((hq.record? l).symm.trans hr))
      (Or.inl ⟨_, rfl, record?_setRecord_self⟩) (fun _ hm => record?_setRecord_of_ne hm) rfl rfl
      (fun _ hbusy => by cases hbusy)
  | forgotten hnew hb hp _ =>
    obtain ⟨hu, -, ho⟩ := hproduce hnew hb hp
    exact (ho _ rfl).change hu (Or.inr ⟨rfl, record?_eraseRecord_self⟩)
      (fun _ hm => record?_eraseRecord_of_ne hm) rfl rfl (fun _ hbusy => by cases hbusy)

end Ask

theorem reply {a : Answer} (h : Orderly none s)
    (ha : ∀ {r b}, s.record? l = some r → r.answer? = some b → a = .ok b) : Orderly none (s.reply l a) where
  noted := fun hm => List.mem_cons_of_mem _ (h.noted hm)
  current := fun hm hb => by
    rcases List.mem_cons.mp hm with hm | hm
    · cases hm
    · exact h.current hm hb
  order := by
    refine List.pairwise_cons.mpr ⟨?_, h.order⟩
    rintro _ hm m r b rfl hb
    refine ⟨by simp, by simp, fun c heq => ?_⟩
    cases heq
    exact ha (h.current hm hb) hb
  written := h.written
  once := h.once

end Orderly

theorem Responds.answer_of_record {ask : Location → Session → Outcome (Option JavaType)}
    (hkeep : ∀ {l s a t}, ask l s = some (a, t) → Keeps s t) {l : Location} {s t : Session} {a : Answer}
    {r : Record} {b : Option JavaType} (h : Responds ask l s a t) (ht : t.record? l = some r)
    (hb : r.answer? = some b) : a = .ok b := by
  have hk := Keeps.responds hkeep h
  cases h with
  | resolved hr _ =>
    rw [hk.record hr] at ht
    cases ht
    cases hb
    rfl
  | failed hr =>
    rw [hr] at ht
    cases ht
    cases hb
    rfl
  | pending hr _ _ =>
    rw [hk.record hr] at ht
    cases ht
    cases hb
  | settled _ _ _ =>
    rw [record?_settle_self] at ht
    cases ht
    cases hb
    rfl
  | assumed _ _ _ _ _ =>
    rw [record?_setRecord_self] at ht
    cases ht
    cases hb
    rfl
  | forgotten _ _ _ _ =>
    rw [record?_eraseRecord_self] at ht
    cases ht

theorem generateWithin_orderly {fuel : Nat} {l : Location} {s t : Session} {a : Answer}
    (h : generateWithin fuel l s = some (a, t)) (hs : Orderly none s) : Orderly none t := by
  induction fuel generalizing l s a t with
  | zero => cases h
  | succ n ih =>
    obtain ⟨_, u, hn, hr, rfl⟩ := generateWithin_responds h
    cases hn
    exact (Orderly.responds generateWithin_keeps ih hs hr).reply (hr.answer_of_record generateWithin_keeps)

theorem Reachable.orderly {s : Session} (h : Reachable s) : Orderly none s := by
  induction h with
  | new catalog output files => exact ⟨by simp [Session.new, record?], by simp [Session.new],
      List.Pairwise.nil, by simp [Session.new], List.nodup_nil⟩
  | step _ hstep ih =>
    rcases hstep.cases with ⟨hr, hj, hw⟩ | ⟨_, _, _, h⟩
    · exact ih.congr hr hj hw
    · exact generateWithin_orderly h ih

/-! ### Finished locations -/

/-- A finished location is answered with its type, and nothing else happens. -/
theorem generateWithin_finished {l : Location} {s : Session} {r : Record} {a : Option JavaType}
    (hr : s.record? l = some r) (ha : r.answer? = some a) (n : Nat) :
    ∃ t, generateWithin (n + 1) l s = some (.ok a, t.reply l (.ok a)) ∧ Quiet s t := by
  unfold generateWithin respond
  rw [hr]
  cases r with
  | pending => cases ha
  | resolved type =>
    cases ha
    exact ⟨_, rfl, Quiet.say s _ _⟩
  | failed type =>
    cases ha
    exact ⟨s, rfl, Quiet.refl s⟩

theorem Step.record {s t : Session} (h : Step s t) {l : Location} {r : Record} (hr : s.record? l = some r) :
    t.record? l = some r := by
  rcases h.cases with ⟨heq, -, -⟩ | ⟨_, _, _, h⟩
  · rw [record?, heq]
    exact hr
  · exact (generateWithin_keeps h).record hr

theorem Reachable.steps {s t : Session} (hs : Reachable s) (h : Relation.ReflTransGen Step s t) : Reachable t := by
  induction h with
  | refl => exact hs
  | tail _ hstep ih => exact ih.step hstep

theorem record_of_steps {s t : Session} (h : Relation.ReflTransGen Step s t) {l : Location} {r : Record}
    (hr : s.record? l = some r) : t.record? l = some r := by
  induction h with
  | refl => exact hr
  | tail _ hstep ih => exact hstep.record ih

/-- In every run, with requests that fail and with any generators, a finished location keeps its record:
    once its record is in the journal no later event about it is anything but the answer with its type, a
    request for it has no effect, and at most one source is ever written for it. -/
theorem generated_at_most_once {s t : Session} (hs : Reachable s) (hst : Relation.ReflTransGen Step s t) :
    (∀ l r a, s.record? l = some r → r.answer? = some a → t.record? l = some r) ∧
    (∀ l r a, r.answer? = some a → (t.record? l = some r ↔ .recorded l r ∈ t.journal)) ∧
    t.journal.Pairwise Event.Respects ∧
    (∀ (m : Session) l r a n, m.record? l = some r → r.answer? = some a →
      ∃ u, generateWithin (n + 1) l m = some (.ok a, u) ∧ u.records = m.records ∧ u.mappings = m.mappings ∧
        u.names = m.names ∧ u.output = m.output ∧ u.files = m.files ∧ u.written = m.written) ∧
    (t.written.map (·.location)).Nodup := by
  have ho := (hs.steps hst).orderly
  refine ⟨fun l r a hr _ => record_of_steps hst hr, fun l r a ha => ⟨ho.noted, fun hm => ho.current hm ha⟩,
    ho.order, fun m l r a n hr ha => ?_, ho.once⟩
  obtain ⟨u, hu, hq⟩ := generateWithin_finished hr ha n
  exact ⟨_, hu, hq.records, hq.mappings, hq.names, hq.output, hq.files, hq.written⟩

end Session

/-! ### Linked nodes -/

/-- The document of a schema that refers to itself: a node has a label and leads to the next node. -/
def linkedDocument : Uri × Json :=
  (⟨"urn", "", none, none, none, .rootless "node", none, none⟩,
    .object [("type", .string "object"), ("properties", .object
      [("label", .object [("type", .string "string")]), ("next", .object [("$ref", .string "#")])])])

def linkedNode : Location := ⟨linkedDocument.1, ""⟩

namespace Session

def linked : Session := Session.new (.preloaded [linkedDocument]) (.memory .empty []) ⟨"/", []⟩

/-- A run with a request that fails, and two for the schema of a node. -/
theorem generated_at_most_once_linked : ∃ s t, Reachable s ∧ Relation.ReflTransGen Step s t ∧
    s.record? linkedNode = some (.resolved (some (.plain "anonymous" "Type"))) ∧
    t.record? linkedNode = some (.resolved (some (.plain "anonymous" "Type"))) ∧
    t.journal.Pairwise Event.Respects ∧ (t.written.map (·.location)).Nodup := by
  have hrun : ((generateWithin 4 (linkedNode.child "nothing") linked).bind fun r =>
      generateWithin 4 linkedNode r.2).map (fun r => r.2.record? linkedNode) =
        some (some (.resolved (some (.plain "anonymous" "Type")))) := by decide +kernel
  obtain ⟨⟨_, s⟩, hbind, hs⟩ := Option.map_eq_some_iff.mp hrun
  obtain ⟨_, hfail, hnode⟩ := Option.bind_eq_some_iff.mp hbind
  have hreach : Reachable s := ((Reachable.new _ _ _).step (.request hfail)).step (.request hnode)
  obtain ⟨t, hagain, -⟩ := generateWithin_finished hs rfl 3
  have hst : Relation.ReflTransGen Step s _ := .single (.request hagain)
  obtain ⟨hkept, -, horder, -, honce⟩ := generated_at_most_once hreach hst
  exact ⟨s, _, hreach, hst, hs, hkept _ _ _ hs rfl, horder, honce⟩

end Session

end SchemaBeans
