import Mathlib.Data.List.Induction
import SchemaBeans.Feature

/-! The last setting of a feature counts.

The features of the library have different keys, so under each key only values of its own type are ever stored,
whether they are set as such or read from a text. What is stored after any calls is said by the calls alone: under
each key the last value that one of them gave it (`Features.Reflects`). -/

namespace SchemaBeans

/-! ### The features of the library -/

/-- The features that the library has. -/
inductive LibraryFeature where
  | defaultPackage
  | enumStyle
  | ignoreMissingTypes
  | simplePlainTypes
deriving DecidableEq, Repr

namespace LibraryFeature

def Value : LibraryFeature → Type
  | .defaultPackage => String
  | .enumStyle => EnumStyle
  | .ignoreMissingTypes => Bool
  | .simplePlainTypes => Bool

instance : (k : LibraryFeature) → FeatureType k.Value
  | .defaultPackage => inferInstanceAs (FeatureType String)
  | .enumStyle => inferInstanceAs (FeatureType EnumStyle)
  | .ignoreMissingTypes => inferInstanceAs (FeatureType Bool)
  | .simplePlainTypes => inferInstanceAs (FeatureType Bool)

def feature : (k : LibraryFeature) → Feature k.Value
  | .defaultPackage => Feature.defaultPackage
  | .enumStyle => Feature.enumStyle
  | .ignoreMissingTypes => Feature.ignoreMissingTypes
  | .simplePlainTypes => Feature.simplePlainTypes

variable {k k' : LibraryFeature}

theorem key_injective (h : k.feature.key = k'.feature.key) : k = k' := by
  cases k <;> cases k' <;> first | rfl | exact absurd h (by decide)

theorem value?_setting (v : k.Value) : FeatureType.value? (FeatureType.setting v) = some v := by
  cases k <;> rfl

end LibraryFeature

namespace Features

variable {k : LibraryFeature} {features : Features}

theorem setText_key (k : LibraryFeature) (features : Features) (text : String) :
    features.setText k.feature.key text = features.setParsed k.feature text := by
  cases k <;> rfl

theorem setText_unknown {key : String} (h : ∀ k : LibraryFeature, key ≠ k.feature.key) (features : Features)
    (text : String) : features.setText key text = .error (.unknownKey key) := by
  have hpackage : key ≠ Feature.defaultPackage.key := h .defaultPackage
  have hstyle : key ≠ Feature.enumStyle.key := h .enumStyle
  have hmissing : key ≠ Feature.ignoreMissingTypes.key := h .ignoreMissingTypes
  have hplain : key ≠ Feature.simplePlainTypes.key := h .simplePlainTypes
  simp only [setText, hpackage, hstyle, hmissing, hplain, if_false]

/-! ### Calls -/

/-- What can be done with features: reading one, setting one, and setting the one with a key from a text. -/
inductive Call where
  | get (k : LibraryFeature)
  | set (k : LibraryFeature) (value : k.Value)
  | setText (key text : String)

/-- The features after a call; those before it where it fails. -/
def perform (features : Features) : Call → Features
  | .get _ => features
  | .set k value => match features.set k.feature value with
    | .ok (_, later) => later
    | .error _ => features
  | .setText key text => match features.setText key text with
    | .ok later => later
    | .error _ => features

/-- The features after calls, where nothing was set before. -/
def after (calls : List Call) : Features := calls.foldl perform empty

theorem after_concat (calls : List Call) (call : Call) : after (calls ++ [call]) = (after calls).perform call := by
  simp [after]

/-- The value that a call gives a feature, if it does: the value that is set, or the one that a text for its key is
    read as. -/
def Call.gives? (k : LibraryFeature) : Call → Option k.Value
  | .get _ => none
  | .set other value => if h : other = k then some (h ▸ value) else none
  | .setText key text => if key = k.feature.key then (FeatureType.parse text).toOption else none

/-- The last value that calls gave a feature. -/
def last? (k : LibraryFeature) (calls : List Call) : Option k.Value := calls.reverse.findSome? (Call.gives? k)

/-- The last value that calls gave a feature, or its default. -/
def current (k : LibraryFeature) (calls : List Call) : k.Value := (last? k calls).getD k.feature.default

theorem last?_concat (k : LibraryFeature) (calls : List Call) (call : Call) :
    last? k (calls ++ [call]) = (call.gives? k).or (last? k calls) := by
  rw [last?, List.reverse_append, List.reverse_singleton, List.singleton_append, List.findSome?_cons]
  cases call.gives? k <;> rfl

/-! ### What is stored -/

/-- Under the key of each feature the last value that calls gave it is stored, and nothing where they gave none. -/
def Reflects (calls : List Call) (features : Features) : Prop :=
  ∀ k : LibraryFeature, features.values.get? k.feature.key = (last? k calls).map FeatureType.setting

namespace Reflects
variable {calls : List Call} (h : Reflects calls features)
include h

theorem get (k : LibraryFeature) : features.get k.feature = .ok (current k calls) := by
  rw [Features.get, h k, current]
  cases last? k calls with
  | none => rfl
  | some value => simp only [Option.map_some, LibraryFeature.value?_setting, Option.getD_some]

theorem set (k : LibraryFeature) (value : k.Value) : features.set k.feature value =
    .ok (current k calls, ⟨features.values.put k.feature.key (FeatureType.setting value)⟩) := by
  rw [Features.set, h.get k]

theorem put {call : Call} {value : k.Value} (hself : call.gives? k = some value)
    (hother : ∀ k', k' ≠ k → call.gives? k' = none) :
    Reflects (calls ++ [call]) ⟨features.values.put k.feature.key (FeatureType.setting value)⟩ := by
  intro k'
  rw [last?_concat]
  by_cases hk : k' = k
  · subst hk
    rw [hself, Table.get?_put_self]
    rfl
  · have hkey : k'.feature.key ≠ k.feature.key := fun heq => hk (LibraryFeature.key_injective heq)
    rw [hother k' hk, Table.get?_put_of_ne _ _ hkey, h k']
    rfl

theorem skip {call : Call} (hnone : ∀ k, call.gives? k = none) : Reflects (calls ++ [call]) features := by
  intro k
  rw [last?_concat, hnone k, h k]
  rfl

/-- A text gives the feature with its key the value that it is read as. It is refused where no feature has the key or
    the text is no value of the feature, and never for what is stored. -/
theorem setText (key text : String) :
    (∃ (k : LibraryFeature) (value : k.Value), key = k.feature.key ∧ FeatureType.parse text = .ok value ∧
      features.setText key text = .ok ⟨features.values.put k.feature.key (FeatureType.setting value)⟩) ∨
    (∀ k, (Call.setText key text).gives? k = none) ∧
      (features.setText key text = .error (.unknownKey key) ∨
        ∃ cause, features.setText key text = .error (.invalidValue key cause)) := by
  by_cases hkey : ∃ k : LibraryFeature, key = k.feature.key
  · obtain ⟨k, rfl⟩ := hkey
    rw [setText_key, Features.setParsed]
    cases hparse : (FeatureType.parse text : Except SettingError k.Value) with
    | ok value =>
      refine Or.inl ⟨k, value, rfl, hparse, ?_⟩
      simp only [h.set k value, Except.map]
    | error cause =>
      refine Or.inr ⟨fun k' => ?_, Or.inr ⟨cause, rfl⟩⟩
      -- Features have different keys, so the text is meant for this one only.
      by_cases hk : k.feature.key = k'.feature.key
      · cases LibraryFeature.key_injective hk
        rw [Call.gives?, if_pos rfl, hparse]
        rfl
      · rw [Call.gives?, if_neg hk]
  · have hunknown : ∀ k : LibraryFeature, key ≠ k.feature.key := fun k heq => hkey ⟨k, heq⟩
    exact Or.inr ⟨fun k => by rw [Call.gives?, if_neg (hunknown k)], Or.inl (setText_unknown hunknown features text)⟩

theorem perform (call : Call) : Reflects (calls ++ [call]) (features.perform call) := by
  cases call with
  | get k => exact h.skip fun _ => rfl
  | set k value =>
    rw [Features.perform, h.set k value]
    refine h.put (by rw [Call.gives?, dif_pos rfl]) fun k' hk => ?_
    rw [Call.gives?, dif_neg (Ne.symm hk)]
  | setText key text =>
    rw [Features.perform]
    rcases h.setText key text with ⟨k, value, rfl, hparse, hset⟩ | ⟨hnone, hrefused | ⟨cause, hrefused⟩⟩
    · rw [hset]
      refine h.put ?_ fun k' hk => ?_
      · rw [Call.gives?, if_pos rfl, hparse]
        rfl
      · rw [Call.gives?, if_neg fun heq => hk (LibraryFeature.key_injective heq).symm]
    · rw [hrefused]
      exact h.skip hnone
    · rw [hrefused]
      exact h.skip hnone

end Reflects

theorem reflects_after (calls : List Call) : Reflects calls (after calls) := by
  induction calls using List.reverseRecOn with
  | nil => exact fun k => rfl
  | append_singleton calls call ih =>
    rw [after_concat]
    exact ih.perform call

/-- After any calls a feature has the last value that one of them gave it, or its default. Setting it succeeds and
    answers with that value. A text is accepted exactly if some feature has its key and the text is one of its values;
    otherwise it is refused, for another reason than the type of what is stored, and no feature changes. -/
theorem last_setting_counts (calls : List Call) :
    (∀ k, (after calls).get k.feature = .ok (current k calls)) ∧
    (∀ k value, (after calls).set k.feature value = .ok (current k calls, after (calls ++ [.set k value]))) ∧
    ∀ key text,
      ((after calls).setText key text = .ok (after (calls ++ [.setText key text])) ∧
        ∃ k value, (Call.setText key text).gives? k = some value) ∨
      ∃ e, (after calls).setText key text = .error e ∧ (∀ key held expected, e ≠ .wrongType key held expected) ∧
        ∀ k, (Call.setText key text).gives? k = none ∧
          (after (calls ++ [.setText key text])).get k.feature = (after calls).get k.feature := by
  have h := reflects_after calls
  refine ⟨h.get, fun k value => ?_, fun key text => ?_⟩
  · rw [after_concat, perform, h.set k value]
  · rw [after_concat, perform]
    rcases h.setText key text with ⟨k, value, rfl, hparse, hset⟩ | ⟨hnone, hrefused | ⟨cause, hrefused⟩⟩
    · refine Or.inl ⟨by rw [hset], k, value, ?_⟩
      rw [Call.gives?, if_pos rfl, hparse]
      rfl
    · rw [hrefused]
      exact Or.inr ⟨_, rfl, by simp, fun k => ⟨hnone k, rfl⟩⟩
    · rw [hrefused]
      exact Or.inr ⟨_, rfl, by simp, fun k => ⟨hnone k, rfl⟩⟩

end Features

end SchemaBeans
