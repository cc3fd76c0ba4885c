import SchemaBeans.Proofs.Generator.Plans

/-! When the built-in generators fail of themselves.

What a built-in generator asks for, and whether it comes to its end, depends on the schema and on which of its
requests are answered with a type, but not on the types (`Plan.Alike`). It needs a type for
each location it asks for, and of itself it never fails with the error of a generation (`Plan.Requires`). So a
plan that comes to its end by some answers fails by others only for want of a type (`Alike.untyped_of_fails`). -/

namespace SchemaBeans

open Java (Source)

/-! ### Errors -/

/-- The locations whose generations an error tells of, from the outside in. -/
def Error.trail : Error → List Location
  | .generation l cause => l :: cause.trail
  | _ => []

theorem Kind.trail_of_error {l : Location} {node : Json} {e : Error} (h : Kind.of l node = .error e) : e.trail = [] := by
  unfold Kind.of at h
  repeat' split at h
  all_goals cases h
  all_goals rfl

namespace Reference
variable {l : Location} {node : Json} {e : Error}

theorem trail_of_target? (h : target? l node = .error e) : e.trail = [] := by
  unfold target? at h
  split at h
  · cases h
  · cases h
  · rename_i reference _
    cases hfollow : follow l reference with
    | ok m =>
      rw [hfollow] at h
      cases h
    | error cause =>
      rw [hfollow] at h
      cases h
      unfold follow at hfollow
      split at hfollow <;> cases hfollow
      rfl
  · cases h
    rfl

theorem trail_of_typeTarget? (h : typeTarget? l node = .error e) : e.trail = [] := by
  unfold typeTarget? child? at h
  split at h
  · split at h
    · cases h
    · cases h
    · rename_i ht
      cases h
      exact trail_of_target? ht
  · cases h

end Reference

/-! ### Plans -/

namespace Plan

/-- Every location that is asked for has to have a type, and the plan does not fail of itself with the error of
    a generation. -/
def Requires : Plan → Prop
  | .done _ _ => True
  | .fail e => e.trail = []
  | .note _ next => next.Requires
  | .request l next => next (.ok none) = .fail (.untyped l) ∧ ∀ t, (next (.ok (some t))).Requires

theorem Requires.childType {l : Location} {node : Json} {next : Option JavaType → Plan} (h : ∀ t, (next t).Requires) :
    (childType l node next).Requires := by
  unfold Plan.childType
  split
  · rename_i ht
    exact Reference.trail_of_typeTarget? ht
  · exact h none
  · exact ⟨rfl, fun t => h (some t)⟩

/-- The plan comes to fail with an error, although every request is answered as `D` says. -/
inductive Fails (D : Location → Option JavaType → Prop) (e : Error) : Plan → Prop
  | fail : Fails D e (.fail e)
  | note {entry : LogEntry} {next : Plan} : Fails D e next → Fails D e (.note entry next)
  | request {l : Location} {next : Answer → Plan} {b : Option JavaType} : D l b → Fails D e (next (.ok b)) →
      Fails D e (.request l next)

/-- The plans ask for the same locations and end alike, as long as they are given types for the same ones. -/
inductive Alike : Plan → Plan → Prop
  | done {a b : Option JavaType} {source source' : Source} : Alike (.done a source) (.done b source')
  | fail {e e' : Error} : Alike (.fail e) (.fail e')
  | note {entry entry' : LogEntry} {next next' : Plan} : Alike next next' → Alike (.note entry next) (.note entry' next')
  | request {l : Location} {next next' : Answer → Plan} :
      (∀ a b : Option JavaType, a.isSome = b.isSome → Alike (next (.ok a)) (next' (.ok b))) →
      Alike (.request l next) (.request l next')

variable {D D' : Location → Option JavaType → Prop} {plan plan' : Plan} {a : Option JavaType} {source : Source} {e : Error}

theorem Fails.mono (h : plan.Fails D e) (hD : ∀ l b, D l b → D' l b) : plan.Fails D' e := by
  induction h with
  | fail => exact .fail
  | note _ ih => exact .note ih
  | request hb _ ih => exact .request (hD _ _ hb) ih

theorem Requires.yields (h : plan.Requires) (hy : plan.Yields D a source) :
    plan.Yields (fun l b => D l b ∧ b ≠ none) a source := by
  induction hy with
  | done => exact .done
  | note _ ih => exact .note (ih h)
  | @request l next b _ _ hb hy ih =>
    cases b with
    | none =>
      rw [h.1] at hy
      cases hy
    | some t => exact .request ⟨hb, nofun⟩ (ih (h.2 t))

/-- Where a plan comes to its end, one that is like it fails only for want of a type that the first was given. -/
theorem Alike.untyped_of_fails (h : plan.Alike plan') (hreq : plan'.Requires) (hy : plan.Yields D a source)
    (hfails : plan'.Fails D' e) : ∃ l t, D l (some t) ∧ D' l none ∧ e = .untyped l := by
  induction hy generalizing plan' with
  | done =>
    cases h
    cases hfails
  | note _ ih =>
    cases h with
    | note h =>
      cases hfails with
      | note hfails => exact ih h hreq hfails
  | @request l next b _ _ hb hy ih =>
    cases h with
    | @request _ _ next' h =>
      cases hfails with
      | @request _ _ c hc hfails =>
        obtain ⟨hnone, hsome⟩ := hreq
        cases b with
        | none =>
          -- Without a type the one plan fails, so the other one, which goes alike, did not come to its end.
          have hfail := h none none rfl
          rw [hnone] at hfail
          generalize next (.ok none) = rest at hfail hy
          cases hfail
          cases hy
        | some t =>
          cases c with
          | none =>
            rw [hnone] at hfails
            cases hfails
            exact ⟨l, t, hb, hc, rfl⟩
          | some t' => exact ih (h (some t) (some t') rfl) (hsome t') hfails

theorem Alike.childType {l : Location} {node : Json} {next next' : Option JavaType → Plan}
    (hnone : (next none).Alike (next' none)) (hsome : ∀ t t', (next (some t)).Alike (next' (some t'))) :
    (childType l node next).Alike (childType l node next') := by
  unfold Plan.childType
  split
  · exact .fail
  · exact hnone
  · refine .request fun a b hab => ?_
    cases a with
    | none =>
      cases b with
      | none => exact .fail
      | some t => cases hab
    | some t =>
      cases b with
      | none => cases hab
      | some t' => exact hsome t t'

end Plan

namespace Generator

theorem collect_alike {base : Location} {fields : List (String × Json)} {next next' : List Member → Plan}
    (h : ∀ members members', (next members).Alike (next' members')) (members members' : List Member) :
    (collect base fields members next).Alike (collect base fields members' next') := by
  induction fields generalizing members members' with
  | nil => exact h members members'
  | cons field rest ih =>
    obtain ⟨name, node⟩ := field
    unfold collect
    exact .childType (.note (ih _ _)) fun _ _ => ih _ _

variable {l : Location} {node : Json} {features : Features} {requested requested' : JavaType}

theorem object_alike : (object ⟨l, requested, node, features⟩).Alike (object ⟨l, requested', node, features⟩) := by
  refine collect_alike (fun members members' => ?_) [] []
  unfold collectAdditional
  cases node.get? additionalProperties with
  | none => exact .done
  | some child => exact .childType .done fun _ _ => .done

theorem array_alike : (array ⟨l, requested, node, features⟩).Alike (array ⟨l, requested', node, features⟩) := by
  unfold array
  dsimp only
  split
  · exact .fail
  · exact .fail
  · exact .fail
  · exact .childType .fail fun _ _ => .done
  · exact .note .fail

theorem string_alike : (string ⟨l, requested, node, features⟩).Alike (string ⟨l, requested', node, features⟩) := by
  unfold string
  dsimp only
  split
  · exact .done
  · split
    · exact .done
    · split
      · exact .done
      · exact .fail

theorem collect_requires {base : Location} {fields : List (String × Json)} {next : List Member → Plan}
    (h : ∀ members, (next members).Requires) (members : List Member) : (collect base fields members next).Requires := by
  induction fields generalizing members with
  | nil => exact h members
  | cons field rest ih =>
    obtain ⟨name, node⟩ := field
    unfold collect
    refine .childType fun t => ?_
    cases t with
    | none => exact ih members
    | some t => exact ih _

theorem object_requires (task : Task) : (object task).Requires := by
  refine collect_requires (fun members => ?_) []
  unfold collectAdditional
  split
  · trivial
  · refine .childType fun t => ?_
    cases t <;> trivial

theorem array_requires (task : Task) : (array task).Requires := by
  unfold array
  dsimp only
  split
  · rfl
  · rfl
  · rfl
  · refine .childType fun t => ?_
    cases t with
    | none => rfl
    | some t => trivial
  · rfl

theorem string_requires (task : Task) : (string task).Requires := by
  unfold string
  split
  · trivial
  · split
    · trivial
    · split
      · trivial
      · rfl

theorem standard_requires {kind : String} {generator : Generator} (h : Generators.standard.get? kind = some generator)
    (task : Task) : (generator task).Requires := by
  rcases Generators.standard_cases h with ⟨-, rfl⟩ | ⟨-, rfl⟩ | ⟨-, rfl⟩ | ⟨t, rfl, -⟩
  · exact object_requires task
  · exact array_requires task
  · exact string_requires task
  · trivial

theorem standard_alike {kind : String} {generator : Generator} (h : Generators.standard.get? kind = some generator) :
    (generator ⟨l, requested, node, features⟩).Alike (generator ⟨l, requested', node, features⟩) := by
  rcases Generators.standard_cases h with ⟨-, rfl⟩ | ⟨-, rfl⟩ | ⟨-, rfl⟩ | ⟨t, rfl, -⟩
  · exact object_alike
  · exact array_alike
  · exact string_alike
  · exact .done

end Generator

end SchemaBeans
