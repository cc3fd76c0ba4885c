import SchemaBeans.Proofs.Generation.Keeps

/-! The sessions that a request passes through.

While a location is generated others are asked for, and for each of these the same happens again. `moments` lists
the sessions of all these requests in order: the session in which a request is made, the one in which its location
has become pending, and the one in which it has been answered. A relation that leads from the first of them to the
last (`Threads`) holds between any two of them, the earlier one first. -/

namespace SchemaBeans

open Java (Source)

/-- The requests that a plan makes, each with the session it is made in; `ask` answers them. -/
def Plan.requests (ask : Location → Session → Outcome (Option JavaType)) : Plan → Session → List (Location × Session)
  | .done _ _, _ => []
  | .fail _, _ => []
  | .note entry next, s => next.requests ask (s.note entry)
  | .request l next, s => (l, s) :: match ask l s with
    | none => []
    | some (a, t) => (next a).requests ask t

/-- The event belongs to a moment of its own: a location becomes pending or is answered. Whatever else is recorded
    is followed by an answer at once. -/
def Event.isMoment : Event → Bool
  | .recorded _ .pending => true
  | .answered _ _ => true
  | _ => false

namespace Session

/-! ### Requests -/

/-- A pending location that leads to one that is not pending asks for it. -/
def pendingRequests (l : Location) (s : Session) : List (Location × Session) :=
  match walk (s.records.length + 1) [] 0 l s with
  | (.ok (.stop target _), t) => if target = l || t.isPending target then [] else [(target, t)]
  | _ => []

/-- A location that refers to another one asks for it, and a schema asks for what its generator asks for. -/
def productionRequests (ask : Location → Session → Outcome (Option JavaType)) (l : Location) (requested : JavaType)
    (s : Session) : List (Location × Session) :=
  if s.isGiven requested then []
  else match (s.resolve l).1 with
    | .error _ => []
    | .ok node => match Reference.target? l node with
      | .error _ => []
      | .ok (some target) => [(target, s.redirected l target)]
      | .ok none => match Kind.of l node with
        | .ok (some kind) => match s.generators.get? kind with
          | some generator =>
            if node.isObject then (generator (s.task l requested node)).requests ask (s.opened l node) else []
          | none => []
        | _ => []

/-- What is asked for to answer a request; `ask` answers. -/
def requests (ask : Location → Session → Outcome (Option JavaType)) (l : Location) (s : Session) :
    List (Location × Session) :=
  match s.record? l with
  | some .pending => pendingRequests l (s.say .debug (l.text ++ ": in progress"))
  | none => productionRequests ask l (s.bindType l).1 (s.marked l)
  | _ => []

/-- The sessions that a request passes through, in order. -/
def moments : Nat → Location → Session → List Session
  | 0, _, _ => []
  | n + 1, l, s =>
    s :: (if s.record? l = none then [s.marked l] else []) ++
      (requests (generateWithin n) l s).flatMap (fun r => moments n r.1 r.2) ++
      ((generateWithin (n + 1) l s).map (·.2)).toList

/-- The sessions that requests pass through, one request after the other, whether they fail or not. -/
def momentsAll (s : Session) : List Location → List Session
  | [] => []
  | l :: rest => moments s.depth l s ++ match s.generate l with
    | none => []
    | some (_, t) => t.momentsAll rest

/-- The answers to requests, one after the other, whether they fail or not. -/
def answerAll (s : Session) : List Location → Option (List Answer × Session)
  | [] => some ([], s)
  | l :: rest => match s.generate l with
    | none => none
    | some (a, t) => (t.answerAll rest).map fun r => (a :: r.1, r.2)

section Production
variable {ask : Location → Session → Outcome (Option JavaType)} {l target : Location} {requested : JavaType}
  {s : Session} {node : Json} {generator : Generator}

theorem productionRequests_given (hg : s.isGiven requested = true) : productionRequests ask l requested s = [] := by
  rw [productionRequests, if_pos hg]

/-- Only a reference that is followed and a generator that is given a schema ask for anything. -/
theorem productionRequests_cases (ask : Location → Session → Outcome (Option JavaType)) (l : Location)
    (requested : JavaType) (s : Session) : productionRequests ask l requested s = [] ∨
      (∃ node target, s.isGiven requested = false ∧ (s.resolve l).1 = .ok node ∧
        Reference.target? l node = .ok (some target)) ∨
      ∃ node generator, s.isGiven requested = false ∧ s.Dispatches l node generator := by
  unfold productionRequests
  split
  · exact Or.inl rfl
  · rename_i hgiven
    have hgiven' := Bool.eq_false_iff.mpr hgiven
    split
    · exact Or.inl rfl
    · rename_i node hn
      split
      · exact Or.inl rfl
      · rename_i target ht
        exact Or.inr (Or.inl ⟨node, target, hgiven', hn, ht⟩)
      · rename_i hplain
        split
        · rename_i kind hk
          split
          · rename_i generator hgen
            split
            · rename_i hobject
              exact Or.inr (Or.inr ⟨node, generator, hgiven', ⟨hn, hplain, hobject⟩, kind, hk, hgen⟩)
            · exact Or.inl rfl
          · exact Or.inl rfl
        · exact Or.inl rfl

theorem productionRequests_stuck (hs : s.Stuck l) : productionRequests ask l requested s = [] := by
  rcases productionRequests_cases ask l requested s with hnone | ⟨node, target, -, hn, ht⟩ | ⟨node, generator, -, hd⟩
  · exact hnone
  · exact absurd ht (hs.reference node target hn)
  · exact absurd hd (hs.dispatch node generator)

theorem productionRequests_reference (hg : s.isGiven requested = false) (hn : (s.resolve l).1 = .ok node)
    (ht : Reference.target? l node = .ok (some target)) :
    productionRequests ask l requested s = [(target, s.redirected l target)] := by
  simp only [productionRequests, hg, Bool.false_eq_true, if_false, hn, ht]

theorem productionRequests_null (hg : s.isGiven requested = false) (hr : s.Reads l node) (hk : Kind.of l node = .ok none) :
    productionRequests ask l requested s = [] := by
  simp only [productionRequests, hg, Bool.false_eq_true, if_false, hr.resolved, hr.plain, hk]

theorem productionRequests_dispatch (hg : s.isGiven requested = false) (hd : s.Dispatches l node generator) :
    productionRequests ask l requested s = (generator (s.task l requested node)).requests ask (s.opened l node) := by
  obtain ⟨hr, kind, hk, hgen⟩ := hd
  simp only [productionRequests, hg, Bool.false_eq_true, if_false, hr.resolved, hr.plain, hk, hgen, hr.object, if_true]

end Production

section New
variable {ask : Location → Session → Outcome (Option JavaType)} {l : Location} {s t : Session} {a : Answer}
  (hnew : s.record? l = none)
include hnew

theorem respond_new : respond ask l s = match produce ask l (s.bindType l).1 (s.marked l) with
    | none => none
    | some (.ok x, u) => some (.ok x, u.settle l (s.bindType l).1 (s.bindType l).2.1 x)
    | some (.error e, u) => some (u.giveUp l (s.bindType l).1 e) := by
  unfold respond
  rw [hnew]
  rfl

theorem respond_of_new (h : respond ask l s = some (a, t)) :
    ∃ r u, produce ask l (s.bindType l).1 (s.marked l) = some (r, u) ∧
      ((∃ x, r = .ok x ∧ a = .ok x ∧ t = u.settle l (s.bindType l).1 (s.bindType l).2.1 x) ∨
        ∃ e, r = .error e ∧ (a, t) = u.giveUp l (s.bindType l).1 e) := by
  rw [respond_new hnew] at h
  split at h
  · cases h
  · rename_i x u hp
    cases h
    exact ⟨.ok x, u, hp, Or.inl ⟨x, rfl, rfl, rfl⟩⟩
  · rename_i e u hp
    exact ⟨.error e, u, hp, Or.inr ⟨e, rfl, (Option.some.inj h).symm⟩⟩

end New

/-! ### Paths -/

/-- A relation leads from `s` along a path of sessions to `t`, and whatever became pending or was answered in
    between did so at one of the sessions of the path. -/
structure Threads (R : Session → Session → Prop) (s : Session) (path : List Session) (t : Session) : Prop where
  start : ∀ v ∈ path, R s v
  order : path.Pairwise R
  finish : ∀ v ∈ path, R v t
  across : R s t
  told : ∀ {e : Event}, e.isMoment = true → e ∈ t.journal → e ∈ s.journal ∨ ∃ v ∈ path, v.journal.head? = some e

namespace Threads
variable {R : Session → Session → Prop} {s t u : Session} {p q : List Session}

theorem skip (h : R s t) (hjournal : t.journal = s.journal) : Threads R s [] t :=
  ⟨by simp, .nil, by simp, h, fun _ he => Or.inl (hjournal ▸ he)⟩

/-- A path to a session in which nothing but its last event belongs to a moment. -/
theorem reach (h : R s t) (hrefl : R t t) (hjournal : ∀ {e : Event}, e.isMoment = true → e ∈ t.journal →
    e ∈ s.journal ∨ t.journal.head? = some e) : Threads R s [t] t := by
  refine ⟨by simpa using h, List.pairwise_singleton _ _, by simpa using hrefl, h, fun hmoment he => ?_⟩
  exact (hjournal hmoment he).imp_right fun hhead => ⟨t, List.mem_singleton_self t, hhead⟩

theorem append (h₁ : Threads R s p t) (h₂ : Threads R t q u) (htrans : ∀ {s t u}, R s t → R t u → R s u) :
    Threads R s (p ++ q) u := by
  refine ⟨fun v hv => ?_, List.pairwise_append.mpr ⟨h₁.order, h₂.order, fun v hv v' hv' => ?_⟩, fun v hv => ?_,
    htrans h₁.across h₂.across, fun hmoment he => ?_⟩
  · rcases List.mem_append.mp hv with hv | hv
    · exact h₁.start v hv
    · exact htrans h₁.across (h₂.start v hv)
  · exact htrans (h₁.finish v hv) (h₂.start v' hv')
  · rcases List.mem_append.mp hv with hv | hv
    · exact htrans (h₁.finish v hv) h₂.across
    · exact h₂.finish v hv
  · rcases h₂.told hmoment he with he | ⟨v, hv, hhead⟩
    · rcases h₁.told hmoment he with he | ⟨v, hv, hhead⟩
      · exact Or.inl he
      · exact Or.inr ⟨v, List.mem_append_left _ hv, hhead⟩
    · exact Or.inr ⟨v, List.mem_append_right _ hv, hhead⟩

end Threads

end Session

end SchemaBeans
