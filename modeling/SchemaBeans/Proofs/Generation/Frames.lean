import SchemaBeans.Proofs.Generation.Rules

/-! What does not depend on features, names and mappings.

Reading schemas, following pending locations and writing sources go in the same way in sessions that differ in their
features, names and mappings only. -/

namespace SchemaBeans

namespace Session

/-- The session with other features, names and mappings. -/
def amended (s : Session) (features : Features) (names : Names) (mappings : Mappings) : Session :=
  { s with features, names, mappings }

section Amended
variable (f : Features) (names : Names) (mappings : Mappings)

theorem hop_amended (s : Session) (l : Location) :
    (s.amended f names mappings).hop l = ((s.hop l).1, (s.hop l).2.amended f names mappings) := by
  have hresolve : (s.amended f names mappings).resolve l =
      ((s.resolve l).1, (s.resolve l).2.amended f names mappings) := rfl
  unfold hop
  rw [hresolve]
  rcases s.resolve l with ⟨_ | node, u⟩ <;> rfl

theorem walk_amended (fuel : Nat) (seen : List Location) (lists : Nat) (l : Location) (s : Session) :
    walk fuel seen lists l (s.amended f names mappings) =
      ((walk fuel seen lists l s).1, (walk fuel seen lists l s).2.amended f names mappings) := by
  induction fuel generalizing seen lists l s with
  | zero => rfl
  | succ fuel ih =>
    have hpending : (s.amended f names mappings).isPending l = s.isPending l := rfl
    unfold walk
    rw [hpending, hop_amended]
    by_cases hp : (!s.isPending l) = true
    · rw [if_pos hp, if_pos hp]
    · rw [if_neg hp, if_neg hp]
      by_cases hmem : l ∈ seen
      · rw [if_pos hmem, if_pos hmem]
      · rw [if_neg hmem, if_neg hmem]
        rcases s.hop l with ⟨_ | _ | target | target, u⟩
        · rfl
        · rfl
        · exact ih _ _ _ _
        · exact ih _ _ _ _

theorem opened_amended (s : Session) (l : Location) (node : Json) :
    (s.amended f names mappings).opened l node = (s.opened l node).amended f names mappings := by
  unfold opened
  split <;> rfl

theorem write_amended (s : Session) (l : Location) (x : JavaType) (text : String) :
    (s.amended f names mappings).write l x text =
      ((s.write l x text).1, (s.write l x text).2.amended f names mappings) := by
  have houtput : ((s.amended f names mappings).say .info (l.text ++ ": writing " ++ x.text)).output.write
      ((s.amended f names mappings).say .info (l.text ++ ": writing " ++ x.text)).files x text =
        (s.say .info (l.text ++ ": writing " ++ x.text)).output.write
          (s.say .info (l.text ++ ": writing " ++ x.text)).files x text := rfl
  unfold Session.write
  dsimp only
  rw [houtput]
  split <;> rfl

end Amended

end Session

end SchemaBeans
