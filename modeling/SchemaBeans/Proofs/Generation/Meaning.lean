import Mathlib.Logic.Relation
import SchemaBeans.Proofs.Generator.Plans
import SchemaBeans.Proofs.Json.Places
import SchemaBeans.Session

/-! What the type of a location is, said without a run.

`Setup.Denotes` is the meaning of a location: its pinned type, the meaning of what it refers to, a type
that the schema alone decides, a list, or the type that the store binds to it. It has at most one meaning.
`Setup.Explains` says the same step by step, together with the source that is written for the location. -/

namespace SchemaBeans

open Java (Source)

/-- What is fixed before the first request: the documents, and the mappings in the order they are added. -/
structure Setup where
  documents : Table Uri Json
  mappings : List Mapping

namespace Setup
variable (w : Setup)

def configured : Mappings := w.mappings.foldl Mappings.put .empty

/-- A session that is set up and has not been asked for anything. -/
def session (output : Output) (files : Files) : Session :=
  w.mappings.foldl Session.addMapping (.new (.preloaded w.documents) output files)

/-! ### Schemas and the edges between them -/

/-- The location is mapped to a type that is there already. -/
def Pinned (l : Location) (t : JavaType) : Prop :=
  w.configured.type? l = some t ∧ (t.isPrimitive || KnownTypes.standard.contains t) = true

/-- The location has a schema that decides on its type. -/
structure Schema (l : Location) (node : Json) : Prop where
  unpinned : ∀ t, ¬w.Pinned l t
  found : l.node? w.documents = some node
  plain : Reference.target? l node = .ok none
  object : node.isObject = true

/-- The location refers to another one. -/
structure Refers (l target : Location) : Prop where
  unpinned : ∀ t, ¬w.Pinned l t
  target : ∃ node, l.node? w.documents = some node ∧ Reference.target? l node = .ok (some target)

/-- The location is an array, and the items are found at another one. -/
def Lists (l target : Location) : Prop :=
  ∃ node fields, w.Schema l node ∧ Kind.of l node = .ok (some "array") ∧
    node.get? "items" = some (.object fields) ∧
    Reference.typeTarget? (l.child "items") (.object fields) = .ok (some target)

/-- Whoever asks for the one location is passed on to the other. -/
def Hop (l target : Location) : Prop := w.Refers l target ∨ w.Lists l target

/-- The type of the one location is made from that of the other. -/
def Needs (l target : Location) : Prop := w.Refers l target ∨ ∃ node, w.Schema l node ∧ l.Asks node target

/-- The location has a type of its own: it is an object or a string with listed values. -/
def Emits (l : Location) : Prop :=
  ∃ node, w.Schema l node ∧ (Kind.of l node = .ok (some "object") ∨
    (Kind.of l node = .ok (some "string") ∧ (node.get? "enum").isSome))

/-- The location has an object schema. -/
def IsObject (l : Location) : Prop := ∃ node, w.Schema l node ∧ Kind.of l node = .ok (some "object")

/-- The locations that requests lead to. -/
def Reached (requests : List Location) (l : Location) : Prop :=
  ∃ r ∈ requests, Relation.ReflTransGen w.Needs r l

/-- Nowhere that requests lead to do references and arrays go in a circle. -/
def Grounded (requests : List Location) : Prop :=
  ∀ l, w.Reached requests l → ¬Relation.TransGen w.Hop l l

section Edges
variable {w : Setup} {l m m' : Location} {node node' : Json} {t : JavaType}

theorem Schema.unique (h : w.Schema l node) (h' : w.Schema l node') : node = node' :=
  Option.some.inj (h.found.symm.trans h'.found)

theorem Refers.unique (h : w.Refers l m) (h' : w.Refers l m') : m = m' := by
  obtain ⟨-, node, hn, ht⟩ := h
  obtain ⟨-, node', hn', ht'⟩ := h'
  cases hn.symm.trans hn'
  cases ht.symm.trans ht'
  rfl

theorem Refers.not_schema (h : w.Refers l m) : ¬w.Schema l node := by
  intro hs
  obtain ⟨-, node', hn, ht⟩ := h
  cases hn.symm.trans hs.found
  cases ht.symm.trans hs.plain

theorem Refers.not_lists (h : w.Refers l m) : ¬w.Lists l m' := by
  rintro ⟨node, _, hs, -⟩
  exact h.not_schema hs

theorem Lists.unpinned (h : w.Lists l m) (t : JavaType) : ¬w.Pinned l t := by
  obtain ⟨node, _, hs, -⟩ := h
  exact hs.unpinned t

theorem Emits.unpinned (h : w.Emits l) (t : JavaType) : ¬w.Pinned l t := by
  obtain ⟨node, hs, -⟩ := h
  exact hs.unpinned t

theorem Lists.unique (h : w.Lists l m) (h' : w.Lists l m') : m = m' := by
  obtain ⟨node, fields, hs, -, hi, ht⟩ := h
  obtain ⟨node', fields', hs', -, hi', ht'⟩ := h'
  cases hs.unique hs'
  cases hi.symm.trans hi'
  cases ht.symm.trans ht'
  rfl

theorem Hop.unique (h : w.Hop l m) (h' : w.Hop l m') : m = m' := by
  rcases h with h | h <;> rcases h' with h' | h'
  · exact h.unique h'
  · exact absurd h' h.not_lists
  · exact absurd h h'.not_lists
  · exact h.unique h'

theorem Lists.needs (h : w.Lists l m) : w.Needs l m := by
  obtain ⟨node, fields, hs, hk, hi, ht⟩ := h
  exact Or.inr ⟨node, hs, .items hk hi ht⟩

theorem Hop.needs (h : w.Hop l m) : w.Needs l m := by
  rcases h with h | h
  · exact Or.inl h
  · exact h.needs

theorem Schema.object_or_hop (h : w.Schema l node) (ha : l.Asks node m) : w.IsObject l ∨ w.Hop l m := by
  cases ha with
  | items hk hi ht => exact Or.inr (Or.inr ⟨node, _, h, hk, hi, ht⟩)
  | property hk _ _ => exact Or.inl ⟨node, h, hk⟩
  | additional hk _ _ => exact Or.inl ⟨node, h, hk⟩

theorem IsObject.emits (h : w.IsObject l) : w.Emits l := by
  obtain ⟨node, hs, hk⟩ := h
  exact ⟨node, hs, Or.inl hk⟩

theorem Emits.not_refers (h : w.Emits l) : ¬w.Refers l m := by
  obtain ⟨node, hs, -⟩ := h
  exact fun hr => hr.not_schema hs

theorem Emits.not_lists (h : w.Emits l) : ¬w.Lists l m := by
  rintro ⟨node', _, hs', hk', -⟩
  obtain ⟨node, hs, hk⟩ := h
  cases hs.unique hs'
  rcases hk with hk | ⟨hk, -⟩ <;> rw [hk'] at hk <;> simp at hk

theorem Emits.not_hop (h : w.Emits l) : ¬w.Hop l m := by
  rintro (hr | hl)
  · exact h.not_refers hr
  · exact h.not_lists hl

theorem Reached.needs {requests : List Location} (h : w.Reached requests l) (hm : w.Needs l m) :
    w.Reached requests m := by
  obtain ⟨r, hr, hl⟩ := h
  exact ⟨r, hr, hl.tail hm⟩

end Edges

/-! ### Meaning -/

/-- The type that a schema decides on alone; nothing for `null`. -/
inductive Plain (l : Location) (node : Json) : Option JavaType → Prop
  | null : Kind.of l node = .ok none → Plain l node none
  | integer : Kind.of l node = .ok (some "integer") → Plain l node (some .long)
  | number : Kind.of l node = .ok (some "number") → Plain l node (some .double)
  | boolean : Kind.of l node = .ok (some "boolean") → Plain l node (some .boolean)
  | string : Kind.of l node = .ok (some "string") → node.get? "enum" = none → Plain l node (some .string)

/-- The type of a location, given the types that a store binds to locations with one of their own. -/
inductive Denotes (store : Mappings) : Location → Option JavaType → Prop
  | pinned {l : Location} {t : JavaType} : w.Pinned l t → Denotes store l (some t)
  | reference {l target : Location} {a : Option JavaType} : w.Refers l target → Denotes store target a →
      Denotes store l a
  | plain {l : Location} {node : Json} {a : Option JavaType} : w.Schema l node → Plain l node a →
      Denotes store l a
  | list {l target : Location} {t : JavaType} : w.Lists l target → Denotes store target (some t) →
      Denotes store l (some t.listOf)
  | own {l : Location} {t : JavaType} : w.Emits l → store.type? l = some t → Denotes store l (some t)

section Meaning
variable {w : Setup} {store : Mappings} {l m : Location} {node : Json} {a b : Option JavaType}

theorem Plain.unique (h : Plain l node a) (h' : Plain l node b) : a = b := by
  cases h <;> cases h' <;> simp_all

theorem Plain.not_emits (h : Plain l node a) (hs : w.Schema l node) : ¬w.Emits l := by
  rintro ⟨node', hs', hk⟩
  cases hs.unique hs'
  rcases hk with hk | ⟨hk, he⟩ <;> cases h <;> simp_all

theorem Plain.not_lists (h : Plain l node a) (hs : w.Schema l node) : ¬w.Lists l m := by
  rintro ⟨node', _, hs', hk, -⟩
  cases hs.unique hs'
  cases h <;> simp_all

theorem Denotes.unique (h : w.Denotes store l a) (h' : w.Denotes store l b) : a = b := by
  induction h generalizing b with
  | pinned hp =>
    cases h' with
    | pinned hp' => rw [← hp.1, ← hp'.1]
    | reference hr _ => exact absurd hp (hr.unpinned _)
    | plain hs _ => exact absurd hp (hs.unpinned _)
    | list hl _ => exact absurd hp (hl.unpinned _)
    | own he _ => exact absurd hp (he.unpinned _)
  | reference hr _ ih =>
    cases h' with
    | pinned hp => exact absurd hp (hr.unpinned _)
    | reference hr' hd => exact ih (hr.unique hr' ▸ hd)
    | plain hs _ => exact absurd hs hr.not_schema
    | list hl _ => exact absurd hl hr.not_lists
    | own he _ => exact absurd hr he.not_refers
  | plain hs hp =>
    cases h' with
    | pinned hp' => exact absurd hp' (hs.unpinned _)
    | reference hr _ => exact absurd hs hr.not_schema
    | plain hs' hp' =>
      cases hs.unique hs'
      exact hp.unique hp'
    | list hl _ => exact absurd hl (hp.not_lists hs)
    | own he _ => exact absurd he (hp.not_emits hs)
  | list hl _ ih =>
    cases h' with
    | pinned hp => exact absurd hp (hl.unpinned _)
    | reference hr _ => exact absurd hl hr.not_lists
    | plain hs hp => exact absurd hl (hp.not_lists hs)
    | list hl' hd =>
      cases ih (hl.unique hl' ▸ hd)
      rfl
    | own he _ => exact absurd hl he.not_lists
  | own he ht =>
    cases h' with
    | pinned hp => exact absurd hp (he.unpinned _)
    | reference hr _ => exact absurd hr he.not_refers
    | plain hs hp => exact absurd he (hp.not_emits hs)
    | list hl _ => exact absurd hl he.not_lists
    | own _ ht' => rw [← ht, ← ht']

theorem exists_type (w : Setup) (store : Mappings) :
    ∃ f : Location → Option JavaType, ∀ l a, w.Denotes store l a → f l = a := by
  have hchoice : ∀ l, ∃ b, ∀ a, w.Denotes store l a → b = a := by
    intro l
    by_cases hl : ∃ b, w.Denotes store l b
    · obtain ⟨b, hb⟩ := hl
      exact ⟨b, fun _ ha => hb.unique ha⟩
    · exact ⟨none, fun a ha => absurd ⟨a, ha⟩ hl⟩
  choose f hf using hchoice
  exact ⟨f, hf⟩

/-- A store that keeps the types of locations with one of their own keeps meanings. Only the locations that
    hops lead to matter, here those in `R`. -/
theorem Denotes.mono {store' : Mappings} {R : Location → Prop} (h : w.Denotes store l a) (hl : R l)
    (hR : ∀ {m m'}, R m → w.Hop m m' → R m')
    (hkeep : ∀ {m t}, R m → w.Emits m → store.type? m = some t → store'.type? m = some t) :
    w.Denotes store' l a := by
  induction h with
  | pinned hp => exact .pinned hp
  | reference hr _ ih => exact .reference hr (ih (hR hl (Or.inl hr)))
  | plain hs hp => exact .plain hs hp
  | list hlist _ ih => exact .list hlist (ih (hR hl (Or.inr hlist)))
  | own he ht => exact .own he (hkeep hl he ht)

end Meaning

/-! ### Explanations -/

/-- How the type of a location comes from types that others are answered with by `D`, and the source that
    comes with it. The source is empty where nothing is written. -/
inductive Explains (store : Mappings) (D : Location → Option JavaType → Prop) (l : Location) :
    Option JavaType → Source → Prop
  | pinned {t : JavaType} : w.Pinned l t → Explains store D l (some t) .empty
  | reference {target : Location} {a : Option JavaType} : w.Refers l target → D target a →
      Explains store D l a .empty
  | null {node : Json} : w.Schema l node → Kind.of l node = .ok none → Explains store D l none .empty
  | generated {node : Json} {kind : String} {generator : Generator} {requested : JavaType}
      {a : Option JavaType} {source : Source} : w.Schema l node → Kind.of l node = .ok (some kind) →
      Generators.standard.get? kind = some generator → (w.Emits l → store.type? l = some requested) →
      (generator ⟨l, requested, node, .empty⟩).Yields D a source → Explains store D l a source

section Explanations
variable {w : Setup} {store : Mappings} {D : Location → Option JavaType → Prop} {l m : Location} {node : Json}
  {a b : Option JavaType} {source source' : Source} {kind : String} {generator : Generator}

theorem Explains.mono {store' : Mappings} {D' : Location → Option JavaType → Prop} (h : w.Explains store D l a source)
    (hstore : ∀ t, w.Emits l → store.type? l = some t → store'.type? l = some t)
    (hD : ∀ m b, D m b → D' m b) : w.Explains store' D' l a source := by
  cases h with
  | pinned hp => exact .pinned hp
  | reference hr hd => exact .reference hr (hD _ _ hd)
  | null hs hk => exact .null hs hk
  | generated hs hk hg hreq hy => exact .generated hs hk hg (fun he => hstore _ he (hreq he)) (hy.mono hD)

theorem emits_requested {requested : JavaType} (hs : w.Schema l node) (hk : Kind.of l node = .ok (some kind))
    (hg : Generators.standard.get? kind = some generator) (he : w.Emits l)
    (hy : (generator ⟨l, requested, node, .empty⟩).Yields D a source) : a = some requested := by
  obtain ⟨node', hs', hkind⟩ := he
  cases hs.unique hs'
  rcases hkind with hkind | ⟨hkind, henum⟩
  · cases hk.symm.trans hkind
    cases hg
    have hfits := @Generator.object_fits (fun _ => True) ⟨l, requested, node, .empty⟩ (fun _ _ _ _ => trivial)
      fun _ _ _ _ => trivial
    exact (hfits.yields hy).1
  · cases hk.symm.trans hkind
    cases hg
    obtain ⟨listed, hlisted⟩ := Option.isSome_iff_exists.mp henum
    have hvalue : Features.empty.value Feature.simplePlainTypes = false := rfl
    simp only [Generator.string, hlisted, hvalue, Bool.false_eq_true, if_false] at hy
    split at hy <;> cases hy
    rfl

theorem enum_eq_none (hs : w.Schema l node) (hk : Kind.of l node = .ok (some "string")) (he : ¬w.Emits l) :
    node.get? "enum" = none := by
  cases hn : node.get? "enum" with
  | none => rfl
  | some listed => exact absurd ⟨node, hs, Or.inr ⟨hk, by rw [hn]; rfl⟩⟩ he

theorem silent_plan (hs : w.Schema l node) (hk : Kind.of l node = .ok (some kind))
    (hg : Generators.standard.get? kind = some generator) (he : ¬w.Emits l) (requested requested' : JavaType) :
    generator ⟨l, requested, node, .empty⟩ = generator ⟨l, requested', node, .empty⟩ := by
  rcases Generators.standard_cases hg with ⟨rfl, rfl⟩ | ⟨rfl, rfl⟩ | ⟨rfl, rfl⟩ | ⟨t, rfl, -⟩
  · exact absurd ⟨node, hs, Or.inl hk⟩ he
  · rfl
  · simp only [Generator.string, enum_eq_none hs hk he]
  · rfl

theorem silent_source {f : Features} {requested : JavaType} (hs : w.Schema l node) (hk : Kind.of l node = .ok (some kind))
    (hg : Generators.standard.get? kind = some generator) (he : ¬w.Emits l)
    (hy : (generator ⟨l, requested, node, f⟩).Yields D a source) : source = .empty := by
  rcases Generators.standard_cases hg with ⟨rfl, rfl⟩ | ⟨rfl, rfl⟩ | ⟨rfl, rfl⟩ | ⟨t, rfl, -⟩
  · exact absurd ⟨node, hs, Or.inl hk⟩ he
  · obtain ⟨_, _, _, -, -, -, -, hsource⟩ := Generator.array_yields hy
    exact hsource
  · simp only [Generator.string, enum_eq_none hs hk he] at hy
    cases hy
    rfl
  · cases hy
    rfl

theorem emits_of_source {f : Features} {requested : JavaType} (hs : w.Schema l node)
    (hk : Kind.of l node = .ok (some kind)) (hg : Generators.standard.get? kind = some generator)
    (hy : (generator ⟨l, requested, node, f⟩).Yields D a source) (hfull : source.isEmpty = false) : w.Emits l := by
  by_contra he
  rw [silent_source hs hk hg he hy] at hfull
  cases hfull

theorem Explains.silent (h : w.Explains store D l a source) (he : ¬w.Emits l) : source = .empty := by
  cases h with
  | pinned _ => rfl
  | reference _ _ => rfl
  | null _ _ => rfl
  | generated hs hk hg _ hy => exact silent_source hs hk hg he hy

theorem Explains.emits (h : w.Explains store D l a source) (hs : source.isEmpty = false) : w.Emits l := by
  by_contra he
  rw [h.silent he] at hs
  cases hs

theorem Explains.type (h : w.Explains store D l a source) (he : w.Emits l) :
    ∃ t, store.type? l = some t ∧ a = some t := by
  cases h with
  | pinned hp => exact absurd hp (he.unpinned _)
  | reference hr _ => exact absurd hr he.not_refers
  | null hs hk => exact absurd he (Plain.not_emits (.null hk) hs)
  | generated hs hk hg hreq hy => exact ⟨_, hreq he, emits_requested hs hk hg he hy⟩

theorem Explains.closed (h : w.Explains store D l a source) : source.finish = .ok source.text := by
  refine Source.finish_of_closed ?_
  cases h with
  | pinned _ => rfl
  | reference _ _ => rfl
  | null _ _ => rfl
  | generated hs hk hg _ hy => exact (Generators.standard_fits hg hk).yields hy

/-- An explanation by meanings is a meaning. -/
theorem Explains.denotes (h : w.Explains store D l a source) (hD : ∀ m b, D m b → w.Denotes store m b) :
    w.Denotes store l a := by
  by_cases he : w.Emits l
  · obtain ⟨t, ht, rfl⟩ := h.type he
    exact .own he ht
  · cases h with
    | pinned hp => exact .pinned hp
    | reference hr hd => exact .reference hr (hD _ _ hd)
    | null hs hk => exact .plain hs (.null hk)
    | generated hs hk hg _ hy =>
      rcases Generators.standard_cases hg with ⟨rfl, rfl⟩ | ⟨rfl, rfl⟩ | ⟨rfl, rfl⟩ | ⟨t, rfl, ht⟩
      -- An object has a type of its own.
      · exact absurd ⟨_, hs, Or.inl hk⟩ he
      · obtain ⟨fields, target, t, hi, ht, hd, rfl, -⟩ := Generator.array_yields hy
        exact .list ⟨_, fields, hs, hk, hi, ht⟩ (hD _ _ hd)
      · have henum := enum_eq_none hs hk he
        simp only [Generator.string, henum] at hy
        cases hy
        exact .plain hs (.string hk henum)
      · cases hy
        rcases ht with ⟨rfl, rfl⟩ | ⟨rfl, rfl⟩ | ⟨rfl, rfl⟩
        · exact .plain hs (.integer hk)
        · exact .plain hs (.number hk)
        · exact .plain hs (.boolean hk)

theorem Explains.needs (h : w.Explains store D l a source) (hm : w.Needs l m) : ∃ b, D m b := by
  cases h with
  | pinned hp =>
    rcases hm with hr | ⟨_, hs, -⟩
    · exact absurd hp (hr.unpinned _)
    · exact absurd hp (hs.unpinned _)
  | reference hr hd =>
    rcases hm with hr' | ⟨_, hs, -⟩
    · exact ⟨_, hr.unique hr' ▸ hd⟩
    · exact absurd hs hr.not_schema
  | null hs hk =>
    rcases hm with hr | ⟨_, hs', hask⟩
    · exact absurd hs hr.not_schema
    · cases hs.unique hs'
      rcases hask.kind with hk' | hk' <;> rw [hk] at hk' <;> cases hk'
  | generated hs hk hg _ hy =>
    rcases hm with hr | ⟨_, hs', hask⟩
    · exact absurd hs hr.not_schema
    · cases hs.unique hs'
      exact Generators.standard_asked hg hk hy hask

/-- The explanation of a schema with a generator is what the generator does for any type that may be
    requested. -/
theorem Explains.plan {requested : JavaType} (h : w.Explains store D l a source) (hs : w.Schema l node)
    (hk : Kind.of l node = .ok (some kind)) (hg : Generators.standard.get? kind = some generator)
    (hreq : w.Emits l → store.type? l = some requested) :
    (generator ⟨l, requested, node, .empty⟩).Yields D a source := by
  cases h with
  | pinned hp => exact absurd hp (hs.unpinned _)
  | reference hr _ => exact absurd hs hr.not_schema
  | null hs' hk' =>
    cases hs.unique hs'
    cases hk.symm.trans hk'
  | generated hs' hk' hg' hreq' hy =>
    cases hs.unique hs'
    cases hk.symm.trans hk'
    cases hg.symm.trans hg'
    by_cases he : w.Emits l
    · cases (hreq he).symm.trans (hreq' he)
      exact hy
    · rwa [silent_plan hs hk hg he] at hy

/-- By the meanings of locations there is one explanation only. -/
theorem Explains.unique (h : w.Explains store (w.Denotes store) l a source)
    (h' : w.Explains store (w.Denotes store) l b source') : a = b ∧ source = source' := by
  have hD : ∀ m b b', w.Denotes store m b → w.Denotes store m b' → b = b' := fun _ _ _ hb hb' => hb.unique hb'
  cases h with
  | pinned hp =>
    cases h' with
    | pinned hp' => exact ⟨by rw [← hp.1, ← hp'.1], rfl⟩
    | reference hr _ => exact absurd hp (hr.unpinned _)
    | null hs _ => exact absurd hp (hs.unpinned _)
    | generated hs _ _ _ _ => exact absurd hp (hs.unpinned _)
  | reference hr hd =>
    cases h' with
    | pinned hp => exact absurd hp (hr.unpinned _)
    | reference hr' hd' =>
      cases hr.unique hr'
      exact ⟨hD _ _ _ hd hd', rfl⟩
    | null hs _ => exact absurd hs hr.not_schema
    | generated hs _ _ _ _ => exact absurd hs hr.not_schema
  | null hs hk =>
    cases h' with
    | pinned hp => exact absurd hp (hs.unpinned _)
    | reference hr _ => exact absurd hs hr.not_schema
    | null _ _ => exact ⟨rfl, rfl⟩
    | generated hs' hk' _ _ _ =>
      cases hs.unique hs'
      cases hk.symm.trans hk'
  | generated hs hk hg hreq hy => exact hy.unique hD (h'.plan hs hk hg hreq)

end Explanations

end Setup

end SchemaBeans
