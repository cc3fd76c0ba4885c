import SchemaBeans.Kind
import SchemaBeans.Proofs.Generator.Scripts

/-! What the built-in generators plan.

A plan of a built-in generator passes every error on, asks only for the children of its schema, and ends
with a source that a well-nested script writes (`Plan.Fits`). Given what requests are answered with, it ends in
one way only (`Plan.Yields`). -/

namespace SchemaBeans

open Java (Source)

/-! ### Plans -/

namespace Plan

/-- The plan asks only for locations in `P`, passes errors on, and ends only as `Q` allows. -/
def Fits (P : Location → Prop) (Q : Option JavaType → Source → Prop) : Plan → Prop
  | .done type source => Q type source
  | .fail _ => True
  | .note _ next => next.Fits P Q
  | .request l next => P l ∧ (∀ e, next (.error e) = .fail e) ∧ ∀ a, (next (.ok a)).Fits P Q

/-- Every declaration that the plan opens is closed when it ends, whatever it is answered. -/
def Closes : Plan → Prop
  | .done _ source => source.opened = []
  | .fail _ => True
  | .note _ next => next.Closes
  | .request _ next => ∀ a, (next a).Closes

/-- The plan ends with a type and a source if every request is answered as `D` says. -/
inductive Yields (D : Location → Option JavaType → Prop) : Plan → Option JavaType → Source → Prop
  | done {a : Option JavaType} {source : Source} : Yields D (.done a source) a source
  | note {entry : LogEntry} {next : Plan} {a : Option JavaType} {source : Source} :
      Yields D next a source → Yields D (.note entry next) a source
  | request {l : Location} {next : Answer → Plan} {b a : Option JavaType} {source : Source} :
      D l b → Yields D (next (.ok b)) a source → Yields D (.request l next) a source

section
variable {P : Location → Prop} {Q : Option JavaType → Source → Prop} {D D' : Location → Option JavaType → Prop}
  {plan : Plan} {a a' : Option JavaType} {source source' : Source}

theorem Fits.yields (h : plan.Fits P Q) (hy : plan.Yields D a source) : Q a source := by
  induction hy with
  | done => exact h
  | note _ ih => exact ih h
  | request _ _ ih => exact ih (h.2.2 _)

theorem Yields.mono (h : plan.Yields D a source) (hD : ∀ l b, D l b → D' l b) : plan.Yields D' a source := by
  induction h with
  | done => exact .done
  | note _ ih => exact .note ih
  | request hb _ ih => exact .request (hD _ _ hb) ih

theorem Yields.unique (hD : ∀ l b b', D l b → D l b' → b = b') (h : plan.Yields D a source)
    (h' : plan.Yields D a' source') : a = a' ∧ source = source' := by
  induction h with
  | done =>
    cases h'
    exact ⟨rfl, rfl⟩
  | note _ ih =>
    cases h' with
    | note h' => exact ih h'
  | request hb _ ih =>
    cases h' with
    | request hb' h' =>
      cases hD _ _ _ hb hb'
      exact ih h'

theorem Yields.of_childType {l : Location} {node : Json} {next : Option JavaType → Plan}
    (h : (childType l node next).Yields D a source) :
    (Reference.typeTarget? l node = .ok none ∧ (next none).Yields D a source) ∨
    ∃ target t, Reference.typeTarget? l node = .ok (some target) ∧ D target (some t) ∧
      (next (some t)).Yields D a source := by
  unfold Plan.childType at h
  split at h
  · cases h
  · rename_i ht
    exact Or.inl ⟨ht, h⟩
  · rename_i target ht
    cases h with
    | @request _ _ b _ _ hb h =>
      cases b with
      | none => cases h
      | some t => exact Or.inr ⟨target, t, ht, hb, h⟩

end

section
variable {P : Location → Prop} {Q : Option JavaType → Source → Prop}

theorem Fits.childType {l : Location} {node : Json} {next : Option JavaType → Plan}
    (hP : ∀ target, Reference.typeTarget? l node = .ok (some target) → P target) (hnext : ∀ t, (next t).Fits P Q) :
    (childType l node next).Fits P Q := by
  unfold Plan.childType
  split
  · trivial
  · exact hnext none
  · rename_i target ht
    refine ⟨hP target ht, fun _ => rfl, fun a => ?_⟩
    cases a with
    | none => trivial
    | some t => exact hnext (some t)

end

end Plan

/-! ### The built-in generators -/

/-- The locations that a schema is made from: that of its items if it is an array, those of its properties
    and of its additional properties if it is an object. -/
inductive Location.Asks (l : Location) (node : Json) : Location → Prop
  | items {fields : List (String × Json)} {target : Location} : Kind.of l node = .ok (some "array") →
      node.get? "items" = some (.object fields) →
      Reference.typeTarget? (l.child "items") (.object fields) = .ok (some target) → Asks l node target
  | property {name : String} {child : Json} {target : Location} : Kind.of l node = .ok (some "object") →
      (name, child) ∈ Generator.properties node →
      Reference.typeTarget? ((l.child "properties").child name) child = .ok (some target) → Asks l node target
  | additional {child : Json} {target : Location} : Kind.of l node = .ok (some "object") →
      node.get? Generator.additionalProperties = some child →
      Reference.typeTarget? (l.child Generator.additionalProperties) child = .ok (some target) → Asks l node target

theorem Location.Asks.kind {l m : Location} {node : Json} (h : l.Asks node m) :
    Kind.of l node = .ok (some "array") ∨ Kind.of l node = .ok (some "object") := by
  cases h with
  | items hk _ _ => exact Or.inl hk
  | property hk _ _ => exact Or.inr hk
  | additional hk _ _ => exact Or.inr hk

namespace Generator

theorem collect_fits {P : Location → Prop} {Q : Option JavaType → Source → Prop} {base : Location}
    {fields : List (String × Json)} {next : List Member → Plan}
    (hP : ∀ field ∈ fields, ∀ target,
      Reference.typeTarget? (base.child field.1) field.2 = .ok (some target) → P target)
    (hnext : ∀ members, (next members).Fits P Q) (members : List Member) :
    (collect base fields members next).Fits P Q := by
  induction fields generalizing members with
  | nil => exact hnext members
  | cons field rest ih =>
    obtain ⟨name, node⟩ := field
    have ih' := ih fun field hf => hP field (List.mem_cons_of_mem _ hf)
    unfold collect
    refine Plan.Fits.childType (hP (name, node) List.mem_cons_self) fun t => ?_
    cases t with
    | none => exact ih' members
    | some t => exact ih' _

theorem object_fits {P : Location → Prop} {task : Task}
    (hlisted : ∀ field ∈ properties task.schema, ∀ target,
      Reference.typeTarget? ((task.location.child "properties").child field.1) field.2 = .ok (some target) → P target)
    (hadditional : ∀ node target, task.schema.get? additionalProperties = some node →
      Reference.typeTarget? (task.location.child additionalProperties) node = .ok (some target) → P target) :
    (object task).Fits P fun a source => a = some task.requested ∧ source.Scripted := by
  refine collect_fits hlisted (fun listed => ?_) []
  unfold collectAdditional
  split
  · exact ⟨rfl, classSource_scripted _ _⟩
  · rename_i node hn
    refine Plan.Fits.childType (fun target ht => hadditional node target hn ht) fun t => ?_
    cases t with
    | none => exact ⟨rfl, classSource_scripted _ _⟩
    | some t => exact ⟨rfl, classSource_scripted _ _⟩

theorem array_fits {P : Location → Prop} {task : Task}
    (hitems : ∀ fields target, task.schema.get? "items" = some (.object fields) →
      Reference.typeTarget? (task.location.child "items") (.object fields) = .ok (some target) → P target) :
    (array task).Fits P fun _ source => source.Scripted := by
  unfold array
  dsimp only
  split
  · trivial
  · trivial
  · trivial
  · rename_i fields hi
    refine Plan.Fits.childType (fun target ht => hitems fields target hi ht) fun t => ?_
    cases t with
    | none => trivial
    | some t => exact .empty
  · trivial

theorem string_fits {P : Location → Prop} (task : Task) :
    (string task).Fits P fun a source => (a = some .string ∨ a = some task.requested) ∧ source.Scripted := by
  unfold string
  split
  · exact ⟨Or.inl rfl, .empty⟩
  · split
    · exact ⟨Or.inl rfl, .empty⟩
    · split
      · exact ⟨Or.inr rfl, enumSource_scripted _ _ _⟩
      · trivial

section Yields
variable {D : Location → Option JavaType → Prop} {a : Option JavaType} {source : Source}

theorem collect_yields {base : Location} {fields : List (String × Json)} {next : List Member → Plan}
    {members : List Member} (h : (collect base fields members next).Yields D a source) :
    (∀ field ∈ fields, ∀ target, Reference.typeTarget? (base.child field.1) field.2 = .ok (some target) →
      ∃ b, D target b) ∧
    ∃ collected, (∀ m ∈ collected, m ∈ members ∨ ∃ target, D target (some m.type)) ∧
      (next collected).Yields D a source := by
  induction fields generalizing members with
  | nil => exact ⟨by simp, members, fun _ hm => Or.inl hm, h⟩
  | cons field rest ih =>
    obtain ⟨name, node⟩ := field
    unfold collect at h
    rcases Plan.Yields.of_childType h with ⟨ht, h⟩ | ⟨target, t, ht, hd, h⟩
    · cases h with
      | note h =>
        obtain ⟨hrest, hnext⟩ := ih h
        refine ⟨fun field hf target htarget => ?_, hnext⟩
        rcases List.mem_cons.mp hf with rfl | hf
        -- A value that is no schema has no target.
        · rw [ht] at htarget
          cases htarget
        · exact hrest field hf target htarget
    · obtain ⟨hrest, collected, hmembers, hnext⟩ := ih h
      refine ⟨fun field hf target' htarget => ?_, collected, fun m hm => ?_, hnext⟩
      · rcases List.mem_cons.mp hf with rfl | hf
        · rw [ht] at htarget
          cases htarget
          exact ⟨some t, hd⟩
        · exact hrest field hf target' htarget
      · rcases hmembers m hm with hm | hm
        · rcases List.mem_append.mp hm with hm | hm
          · exact Or.inl hm
          · obtain rfl := List.mem_singleton.mp hm
            exact Or.inr ⟨target, hd⟩
        · exact Or.inr hm

theorem object_yields {task : Task} (h : (object task).Yields D a source)
    (hk : Kind.of task.location task.schema = .ok (some "object")) {target : Location}
    (ht : task.location.Asks task.schema target) : ∃ b, D target b := by
  obtain ⟨hlisted, members, -, hmore⟩ := collect_yields h
  cases ht with
  | items hk' =>
    rw [hk] at hk'
    simp at hk'
  | property _ hf htarget => exact hlisted _ hf _ htarget
  | additional _ hn htarget =>
    unfold collectAdditional at hmore
    rw [hn] at hmore
    rcases Plan.Yields.of_childType hmore with ⟨hnone, -⟩ | ⟨target', t, hsome, hd, -⟩
    · rw [hnone] at htarget
      cases htarget
    · rw [hsome] at htarget
      cases htarget
      exact ⟨some t, hd⟩

theorem array_eq {task : Task} {fields : List (String × Json)} {target : Location}
    (hi : task.schema.get? "items" = some (.object fields))
    (ht : Reference.typeTarget? (task.location.child "items") (.object fields) = .ok (some target)) :
    array task = Plan.require target fun t => .done (some t.listOf) .empty := by
  simp only [array, hi, Plan.childType, ht]

theorem array_yields {task : Task} (h : (array task).Yields D a source) :
    ∃ fields target t, task.schema.get? "items" = some (.object fields) ∧
      Reference.typeTarget? (task.location.child "items") (.object fields) = .ok (some target) ∧
      D target (some t) ∧ a = some t.listOf ∧ source = .empty := by
  unfold array at h
  dsimp only at h
  split at h
  · cases h
  · cases h
  · cases h
  · rename_i fields hi
    rcases Plan.Yields.of_childType h with ⟨-, h⟩ | ⟨target, t, ht, hd, h⟩
    · cases h
    · cases h
      exact ⟨fields, target, t, hi, ht, hd, rfl, rfl⟩
  · cases h with
    | note h => cases h

end Yields

end Generator

theorem Generators.standard_cases {kind : String} {generator : Generator}
    (h : Generators.standard.get? kind = some generator) :
    (kind = "object" ∧ generator = Generator.object) ∨ (kind = "array" ∧ generator = Generator.array) ∨
    (kind = "string" ∧ generator = Generator.string) ∨
    ∃ t, generator = Generator.builtin t ∧ ((kind = "integer" ∧ t = .long) ∨ (kind = "number" ∧ t = .double) ∨
      (kind = "boolean" ∧ t = .boolean)) := by
  have hmem := Table.mem_of_get? h
  simp only [standard, List.mem_cons, Prod.mk.injEq, List.not_mem_nil, or_false] at hmem
  rcases hmem with h | h | h | ⟨hk, hg⟩ | ⟨hk, hg⟩ | ⟨hk, hg⟩
  · exact Or.inl h
  · exact Or.inr (Or.inl h)
  · exact Or.inr (Or.inr (Or.inl h))
  · exact Or.inr (Or.inr (Or.inr ⟨_, hg, Or.inl ⟨hk, rfl⟩⟩))
  · exact Or.inr (Or.inr (Or.inr ⟨_, hg, Or.inr (Or.inl ⟨hk, rfl⟩)⟩))
  · exact Or.inr (Or.inr (Or.inr ⟨_, hg, Or.inr (Or.inr ⟨hk, rfl⟩)⟩))

theorem Generators.standard_asked {D : Location → Option JavaType → Prop} {kind : String} {generator : Generator}
    {task : Task} {a : Option JavaType} {source : Source} {m : Location}
    (hg : Generators.standard.get? kind = some generator) (hk : Kind.of task.location task.schema = .ok (some kind))
    (hy : (generator task).Yields D a source) (hm : task.location.Asks task.schema m) : ∃ b, D m b := by
  rcases standard_cases hg with ⟨rfl, rfl⟩ | ⟨rfl, rfl⟩ | ⟨rfl, rfl⟩ | ⟨t, rfl, ht⟩
  · exact Generator.object_yields hy hk hm
  · obtain ⟨fields, target, t, hi, ht, hd, -, -⟩ := Generator.array_yields hy
    cases hm with
    | items _ hi' ht' =>
      cases hi.symm.trans hi'
      cases ht.symm.trans ht'
      exact ⟨_, hd⟩
    | property hk' => rw [hk] at hk'; simp at hk'
    | additional hk' => rw [hk] at hk'; simp at hk'
  · rcases hm.kind with hk' | hk' <;> rw [hk] at hk' <;> simp at hk'
  · rcases hm.kind with hk' | hk' <;> rw [hk] at hk' <;>
      rcases ht with ⟨rfl, -⟩ | ⟨rfl, -⟩ | ⟨rfl, -⟩ <;> simp at hk'

theorem Plan.Fits.weaken {P P' : Location → Prop} {Q Q' : Option JavaType → Source → Prop} {plan : Plan}
    (h : plan.Fits P Q) (hP : ∀ l, P l → P' l) (hQ : ∀ a source, Q a source → Q' a source) : plan.Fits P' Q' := by
  induction plan with
  | done a source => exact hQ a source h
  | fail e => trivial
  | note entry next ih => exact ih h
  | request l next ih => exact ⟨hP l h.1, h.2.1, fun a => ih _ (h.2.2 a)⟩

theorem Generators.standard_scripted {kind : String} {generator : Generator}
    (hg : Generators.standard.get? kind = some generator) (task : Task) :
    (generator task).Fits (fun _ => True) fun _ source => source.Scripted := by
  rcases standard_cases hg with ⟨rfl, rfl⟩ | ⟨rfl, rfl⟩ | ⟨rfl, rfl⟩ | ⟨t, rfl, -⟩
  · exact (Generator.object_fits (fun _ _ _ _ => trivial) fun _ _ _ _ => trivial).weaken (fun _ h => h) fun _ _ h => h.2
  · exact Generator.array_fits fun _ _ _ _ => trivial
  · exact (Generator.string_fits task).weaken (fun _ h => h) fun _ _ h => h.2
  · exact Source.Scripted.empty

/-- A built-in generator asks only for what its schema is made from, and closes its source. -/
theorem Generators.standard_fits {kind : String} {generator : Generator} {task : Task}
    (hg : Generators.standard.get? kind = some generator)
    (hk : Kind.of task.location task.schema = .ok (some kind)) :
    (generator task).Fits (task.location.Asks task.schema) fun _ source => source.opened = [] := by
  rcases standard_cases hg with ⟨rfl, rfl⟩ | ⟨rfl, rfl⟩ | ⟨rfl, rfl⟩ | ⟨t, rfl, -⟩
  · have hfits := Generator.object_fits (P := task.location.Asks task.schema) (fun field hf target ht => .property hk hf ht)
      fun node target hn ht => .additional hk hn ht
    exact hfits.weaken (fun _ h => h) fun _ _ h => h.2.closed
  · have hfits := Generator.array_fits (P := task.location.Asks task.schema) fun fields target hi ht => .items hk hi ht
    exact hfits.weaken (fun _ h => h) fun _ _ h => h.closed
  · exact (Generator.string_fits task).weaken (fun _ h => h) fun _ _ h => h.2.closed
  · exact rfl

/-- Every generator closes the declarations it opens. -/
def Generators.Closing (generators : Generators) : Prop :=
  ∀ {kind : String} {generator : Generator} {task : Task}, generators.get? kind = some generator →
    Kind.of task.location task.schema = .ok (some kind) → (generator task).Closes

theorem Plan.Fits.closes {P : Location → Prop} {plan : Plan} (h : plan.Fits P fun _ source => source.opened = []) :
    plan.Closes := by
  induction plan with
  | done a source => exact h
  | fail e => trivial
  | note entry next ih => exact ih h
  | request l next ih =>
    intro a
    cases a with
    | error e =>
      rw [h.2.1 e]
      trivial
    | ok b => exact ih _ (h.2.2 b)

theorem Generators.standard_closing : Generators.standard.Closing :=
  fun hg hk => (standard_fits hg hk).closes

end SchemaBeans
