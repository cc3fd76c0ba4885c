import SchemaBeans.Error
import SchemaBeans.Java.Source

/-! What is opened in a source is closed again.

A script writes to a source, action by action: lines, the beginnings and ends of declarations and methods, and whole
declarations whose bodies are scripts and may fail. It is well nested if it closes what it opens, the innermost first.
Then the depth of the source and its open declarations are at any time those it had before with what the script has
open (`Source.Tracks`), and a line that closes something stands as deep as the one that opened it. -/

namespace SchemaBeans.Java

open Text (closeBrace)

/-! ### Actions -/

/-- What is written in its place, and opens or closes nothing. -/
inductive Entry where
  | blank
  | package (t : JavaType)
  | imports (t : JavaType)
  | field (visibility : Visibility) (t : JavaType) (name : String)
  | finalField (visibility : Visibility) (t : JavaType) (name : String)
  | constant (visibility : Visibility) (t : JavaType) (name value : String)
  | enumConstant (name : String) (argument : Option String) (last : Bool)
  | code (statements : List String)
deriving DecidableEq, Repr

/-- One thing that is done to a source. -/
inductive Action where
  | entry (e : Entry)
  | openType (t : JavaType) (kind : DeclarationKind) (visibility : Visibility)
  | closeType
  | openMethod (visibility : Visibility) (returns : Option JavaType) (name : String)
      (parameters : List (JavaType × String))
  | closeMethod
deriving DecidableEq, Repr

namespace Source

def enter (s : Source) : Entry → Source
  | .blank => s.blank
  | .package t => s.declarePackage t
  | .imports t => s.importType t
  | .field visibility t name => s.field visibility t name
  | .finalField visibility t name => s.finalField visibility t name
  | .constant visibility t name value => s.constant visibility t name value
  | .enumConstant name argument last => s.enumConstant name argument last
  | .code statements => s.code statements

def act (s : Source) : Action → Source
  | .entry e => s.enter e
  | .openType t kind visibility => s.openType t kind visibility
  | .closeType => s.closeType
  | .openMethod visibility returns name parameters => s.openMethod visibility returns name parameters
  | .closeMethod => s.closeMethod

/-- The source after actions, one after the other. -/
def after (s : Source) (actions : List Action) : Source := actions.foldl act s

theorem after_append (s : Source) (actions more : List Action) : s.after (actions ++ more) = (s.after actions).after more :=
  List.foldl_append

theorem after_entries (s : Source) (entries : List Entry) : s.after (entries.map .entry) = entries.foldl enter s :=
  List.foldl_map

end Source

/-! ### What is open -/

/-- What can be open: the declaration of a type, or a method. -/
inductive Frame where
  | type (t : JavaType)
  | method
deriving DecidableEq, Repr

def Frame.type? : Frame → Option JavaType
  | .type t => some t
  | .method => none

namespace Action

/-- What the action opens. -/
def opens? : Action → Option Frame
  | .openType t _ _ => some (.type t)
  | .openMethod _ _ _ _ => some .method
  | _ => none

/-- Whether the action closes what is open there. -/
def closes : Action → Frame → Bool
  | .closeType, .type _ => true
  | .closeMethod, .method => true
  | _, _ => false

/-- What is open after an action, the innermost first; nothing if it would close something that is not innermost. -/
def frames? : Action → List Frame → Option (List Frame)
  | .entry _, frames => some frames
  | .openType t _ _, frames => some (.type t :: frames)
  | .openMethod _ _ _ _, frames => some (.method :: frames)
  | .closeType, .type _ :: frames => some frames
  | .closeMethod, .method :: frames => some frames
  | _, _ => none

/-- What is open after actions. -/
def framesAfter? : List Action → List Frame → Option (List Frame)
  | [], frames => some frames
  | action :: rest, frames => (action.frames? frames).bind (framesAfter? rest)

/-- Actions that close what they open. -/
def Balanced (actions : List Action) : Prop := framesAfter? actions [] = some []

theorem frames?_cases {a : Action} {frames later : List Frame} (h : a.frames? frames = some later) :
    (∃ e, a = .entry e ∧ later = frames) ∨ (∃ f, a.opens? = some f ∧ later = f :: frames) ∨
    ∃ f, a.closes f = true ∧ frames = f :: later := by
  unfold frames? at h
  split at h <;> cases h
  · exact Or.inl ⟨_, rfl, rfl⟩
  · exact Or.inr (Or.inl ⟨_, rfl, rfl⟩)
  · exact Or.inr (Or.inl ⟨_, rfl, rfl⟩)
  · exact Or.inr (Or.inr ⟨_, rfl, rfl⟩)
  · exact Or.inr (Or.inr ⟨_, rfl, rfl⟩)

theorem frames?_of_opens {a : Action} {f : Frame} (h : a.opens? = some f) (frames : List Frame) :
    a.frames? frames = some (f :: frames) := by
  cases a <;> cases h <;> rfl

theorem frames?_of_closes {a : Action} {f : Frame} (h : a.closes f = true) (frames : List Frame) :
    a.frames? (f :: frames) = some frames := by
  cases a <;> cases f <;> first | rfl | cases h

theorem framesAfter?_append (actions more : List Action) (frames : List Frame) :
    framesAfter? (actions ++ more) frames = (framesAfter? actions frames).bind (framesAfter? more) := by
  induction actions generalizing frames with
  | nil => rfl
  | cons action rest ih =>
    rw [List.cons_append, framesAfter?, framesAfter?]
    cases action.frames? frames with
    | none => rfl
    | some later => exact ih later

/-- What is open around actions makes no difference to them. -/
theorem framesAfter?_around {actions : List Action} {frames later : List Frame}
    (h : framesAfter? actions frames = some later) (around : List Frame) :
    framesAfter? actions (frames ++ around) = some (later ++ around) := by
  induction actions generalizing frames with
  | nil =>
    cases h
    rfl
  | cons action rest ih =>
    obtain ⟨middle, hmiddle, hrest⟩ := Option.bind_eq_some_iff.mp h
    have haround : action.frames? (frames ++ around) = some (middle ++ around) := by
      rcases frames?_cases hmiddle with ⟨e, rfl, rfl⟩ | ⟨f, hopens, rfl⟩ | ⟨f, hcloses, rfl⟩
      · rfl
      · exact frames?_of_opens hopens (frames ++ around)
      · exact frames?_of_closes hcloses (middle ++ around)
    rw [framesAfter?, haround]
    exact ih hrest

theorem Balanced.around {actions : List Action} (h : Balanced actions) (frames : List Frame) :
    framesAfter? actions frames = some frames := framesAfter?_around h frames

theorem Balanced.append {actions more : List Action} (h : Balanced actions) (hmore : Balanced more) :
    Balanced (actions ++ more) := by
  rw [Balanced, framesAfter?_append, h]
  exact hmore

theorem balanced_nil : Balanced [] := rfl

theorem balanced_singleton (e : Entry) : Balanced [.entry e] := rfl

theorem balanced_entries (entries : List Entry) : Balanced (entries.map .entry) := by
  induction entries with
  | nil => rfl
  | cons e rest ih => exact (balanced_singleton e).append ih

theorem Balanced.between {a b : Action} {f : Frame} {actions : List Action} (h : Balanced actions)
    (ha : a.opens? = some f) (hb : b.closes f = true) : Balanced (a :: (actions ++ [b])) := by
  rw [Balanced, framesAfter?, frames?_of_opens ha, Option.bind_some, framesAfter?_append, h.around, Option.bind_some,
    framesAfter?, frames?_of_closes hb]
  rfl

theorem balanced_flatMap {α : Type} {f : α → List Action} {items : List α} (h : ∀ x ∈ items, Balanced (f x)) :
    Balanced (items.flatMap f) := by
  induction items with
  | nil => rfl
  | cons x items ih =>
    rw [List.flatMap_cons]
    exact (h x List.mem_cons_self).append (ih fun y hy => h y (List.mem_cons_of_mem x hy))

/-- Actions in layers, one for each thing that is open: the action that opened it, and balanced actions since then. -/
inductive Layers : List Frame → List Action → Prop
  | bottom {actions : List Action} : Balanced actions → Layers [] actions
  | layer {frames : List Frame} {outer inner : List Action} {a : Action} {f : Frame} : Layers frames outer →
      a.opens? = some f → Balanced inner → Layers (f :: frames) (outer ++ a :: inner)

theorem Layers.append {frames : List Frame} {actions more : List Action} (h : Layers frames actions)
    (hmore : Balanced more) : Layers frames (actions ++ more) := by
  cases h with
  | bottom h => exact .bottom (h.append hmore)
  | layer houter ha hinner =>
    rw [List.append_assoc, List.cons_append]
    exact .layer houter ha (hinner.append hmore)

/-- The layers of actions from the first on; an action that closes something joins the innermost layer to the one
    around it. -/
theorem Layers.of_framesAfter {actions before : List Action} {frames later : List Frame} (h : Layers frames before)
    (ha : framesAfter? actions frames = some later) : Layers later (before ++ actions) := by
  induction actions generalizing before frames with
  | nil =>
    cases ha
    rwa [List.append_nil]
  | cons action rest ih =>
    obtain ⟨middle, hmiddle, hrest⟩ := Option.bind_eq_some_iff.mp ha
    rw [List.append_cons]
    refine ih ?_ hrest
    rcases frames?_cases hmiddle with ⟨e, rfl, rfl⟩ | ⟨f, hopens, rfl⟩ | ⟨f, hcloses, rfl⟩
    · exact h.append (balanced_singleton e)
    · exact .layer h hopens balanced_nil
    · -- The innermost layer is complete now, and part of the one around it.
      cases h with
      | layer houter hopens hinner =>
        rw [List.append_assoc, List.cons_append]
        exact houter.append (hinner.between hopens hcloses)

/-- What is open was opened by some action, and since then all that was opened was closed. -/
theorem exists_opening {before : List Action} {f : Frame} {frames : List Frame}
    (h : framesAfter? before [] = some (f :: frames)) :
    ∃ outer a inner, before = outer ++ a :: inner ∧ a.opens? = some f ∧ Balanced inner := by
  have hlayers : Layers (f :: frames) before := Layers.of_framesAfter (.bottom balanced_nil) h
  cases hlayers with
  | layer _ hopens hinner => exact ⟨_, _, _, rfl, hopens, hinner⟩

end Action

/-! ### Depth and open declarations -/

namespace Source

/-- Lines were added in their place: nothing was opened or closed. -/
structure InPlace (s t : Source) : Prop where
  depth : t.depth = s.depth
  opened : t.opened = s.opened
  lines : s.lines.toList <+: t.lines.toList

namespace InPlace
variable {s t u : Source}

theorem of_lines_eq (hdepth : t.depth = s.depth) (hopened : t.opened = s.opened) (hlines : t.lines = s.lines) :
    InPlace s t := ⟨hdepth, hopened, hlines ▸ List.prefix_rfl⟩

theorem refl (s : Source) : InPlace s s := of_lines_eq rfl rfl rfl

theorem trans (h : InPlace s t) (h' : InPlace t u) : InPlace s u :=
  ⟨h'.depth.trans h.depth, h'.opened.trans h.opened, h.lines.trans h'.lines⟩

theorem write (h : InPlace s t) (line : Line) : InPlace s (t.write line) := by
  refine h.trans ⟨rfl, rfl, ?_⟩
  rw [Source.write, Array.toList_push]
  exact List.prefix_append _ _

theorem foldl {α : Type} {f : Source → α → Source} (hf : ∀ s x, InPlace s (f s x)) (s : Source) (items : List α) :
    InPlace s (items.foldl f s) := by
  induction items generalizing s with
  | nil => exact refl s
  | cons x items ih => exact (hf s x).trans (ih (f s x))

theorem declarePackage (s : Source) (t : JavaType) : InPlace s (s.declarePackage t) := by
  unfold Source.declarePackage
  dsimp only
  split
  · exact of_lines_eq rfl rfl rfl
  · refine write ?_ _
    exact of_lines_eq rfl rfl rfl

theorem importOne (s : Source) (t : JavaType) : InPlace s (s.importOne t) := by
  unfold Source.importOne
  split
  · exact of_lines_eq rfl rfl rfl
  · split
    · exact refl s
    · split
      · exact refl s
      · split
        · exact refl s
        · refine write ?_ _
          exact of_lines_eq rfl rfl rfl

mutual

theorem importType (s : Source) : ∀ t : JavaType, InPlace s (s.importType t)
  | ⟨package, name, arguments⟩ => by
    rw [Source.importType]
    exact (importOne s _).trans (importTypes _ arguments)

theorem importTypes (s : Source) : ∀ ts : List JavaType, InPlace s (s.importTypes ts)
  | [] => by
    rw [Source.importTypes]
    exact refl s
  | t :: rest => by
    rw [Source.importTypes]
    exact (importType s t).trans (importTypes _ rest)

end

theorem enter (s : Source) (e : Entry) : InPlace s (s.enter e) := by
  cases e with
  | package t => exact declarePackage s t
  | imports t => exact importType s t
  | code statements => exact foldl (fun s _ => (refl s).write _) s statements
  | _ => exact (refl s).write _

end InPlace

variable {s : Source}

theorem openType_inPlace (s : Source) (t : JavaType) (kind : DeclarationKind) (visibility : Visibility) :
    ∃ u header, InPlace s u ∧ s.openType t kind visibility =
      { u.line header with depth := u.depth + 1, opened := t :: u.opened } := by
  refine ⟨{ (if s.opened.isEmpty && !s.isEmpty then s.blank else s) with
    declared := (if s.opened.isEmpty && !s.isEmpty then s.blank else s).declared.insert t.name }, _, ?_, rfl⟩
  split
  · exact ((InPlace.refl s).write _).trans (.of_lines_eq rfl rfl rfl)
  · exact .of_lines_eq rfl rfl rfl

theorem act_of_opens {a : Action} {f : Frame} (h : a.opens? = some f) (s : Source) :
    (s.act a).depth = s.depth + 1 ∧ (s.act a).opened = f.type?.toList ++ s.opened ∧
    s.lines.toList <+: (s.act a).lines.toList ∧ ∃ header, (s.act a).lines.back? = some (.code s.depth header) := by
  cases a with
  | openType t kind visibility =>
    cases h
    -- A blank line may stand before the header, which changes neither the depth nor what is open.
    obtain ⟨u, header, hu, hact⟩ := openType_inPlace s t kind visibility
    have hline := hu.write (.code u.depth header)
    rw [act, hact]
    refine ⟨?_, ?_, hline.lines, header, ?_⟩
    · show u.depth + 1 = s.depth + 1
      rw [hu.depth]
    · show t :: u.opened = t :: s.opened
      rw [hu.opened]
    · show (u.lines.push (.code u.depth header)).back? = _
      rw [Array.back?_push, hu.depth]
  | openMethod visibility returns name parameters =>
    cases h
    exact ⟨rfl, rfl, ((InPlace.refl s).write _).lines, _, Array.back?_push⟩
  | entry e => cases h
  | closeType => cases h
  | closeMethod => cases h

theorem act_of_closes {a : Action} {f : Frame} (h : a.closes f = true) (s : Source) :
    (s.act a).depth = s.depth - 1 ∧ (∀ rest, s.opened = f.type?.toList ++ rest → (s.act a).opened = rest) ∧
    s.lines.toList <+: (s.act a).lines.toList ∧ (s.act a).lines.back? = some (.code (s.depth - 1) closeBrace) := by
  have hlines : s.lines.toList <+: (s.lines.push (.code (s.depth - 1) closeBrace)).toList := by
    rw [Array.toList_push]
    exact List.prefix_append _ _
  cases a with
  | closeType =>
    cases f with
    | type t =>
      refine ⟨rfl, fun rest hrest => ?_, hlines, Array.back?_push⟩
      show s.opened.tail = rest
      rw [hrest]
      rfl
    | method => cases h
  | closeMethod =>
    cases f with
    | method => exact ⟨rfl, fun rest hrest => hrest, hlines, Array.back?_push⟩
    | type t => cases h
  | entry e => cases h
  | openType t kind visibility => cases h
  | openMethod visibility returns name parameters => cases h

theorem lines_act (s : Source) (a : Action) : s.lines.toList <+: (s.act a).lines.toList := by
  cases a with
  | entry e => exact (InPlace.enter s e).lines
  | openType t kind visibility => exact (act_of_opens rfl s).2.2.1
  | openMethod visibility returns name parameters => exact (act_of_opens rfl s).2.2.1
  | closeType => exact (act_of_closes (f := .type default) rfl s).2.2.1
  | closeMethod => exact (act_of_closes (f := .method) rfl s).2.2.1

theorem lines_after (s : Source) (actions : List Action) : s.lines.toList <+: (s.after actions).lines.toList := by
  induction actions generalizing s with
  | nil => exact List.prefix_refl _
  | cons a rest ih => exact (lines_act s a).trans (ih (s.act a))

/-- From `s` on, `frames` were opened and not closed so far: the depth has grown by their number, and the declarations
    among them are open before those that were. -/
structure Tracks (s : Source) (frames : List Frame) (u : Source) : Prop where
  depth : u.depth = s.depth + frames.length
  opened : u.opened = frames.filterMap Frame.type? ++ s.opened

namespace Tracks
variable {u : Source} {frames later : List Frame}

theorem refl (s : Source) : Tracks s [] s := ⟨rfl, rfl⟩

theorem act (h : Tracks s frames u) {a : Action} (ha : a.frames? frames = some later) : Tracks s later (u.act a) := by
  have hcons : ∀ f (frames : List Frame),
      (f :: frames).filterMap Frame.type? = f.type?.toList ++ frames.filterMap Frame.type? := by
    intro f frames
    cases f <;> rfl
  rcases Action.frames?_cases ha with ⟨e, rfl, rfl⟩ | ⟨f, hopens, rfl⟩ | ⟨f, hcloses, rfl⟩
  · have hplace := InPlace.enter u e
    exact ⟨hplace.depth.trans h.depth, hplace.opened.trans h.opened⟩
  · obtain ⟨hdepth, hopened, -, -⟩ := act_of_opens hopens u
    refine ⟨?_, ?_⟩
    · rw [hdepth, h.depth, List.length_cons, Nat.add_assoc]
    · rw [hopened, h.opened, hcons, List.append_assoc]
  · obtain ⟨hdepth, hopened, -, -⟩ := act_of_closes hcloses u
    refine ⟨?_, hopened _ ?_⟩
    · rw [hdepth, h.depth, List.length_cons, ← Nat.add_assoc, Nat.add_sub_cancel]
    · rw [h.opened, hcons, List.append_assoc]

theorem after (h : Tracks s frames u) {actions : List Action} (ha : Action.framesAfter? actions frames = some later) :
    Tracks s later (u.after actions) := by
  induction actions generalizing u frames with
  | nil =>
    cases ha
    exact h
  | cons a rest ih =>
    obtain ⟨middle, hmiddle, hrest⟩ := Option.bind_eq_some_iff.mp ha
    exact ih (h.act hmiddle) hrest

theorem currentType? (h : Tracks s frames u) :
    u.currentType? = (frames.findSome? Frame.type?).or s.currentType? := by
  rw [Source.currentType?, h.opened, List.head?_append, List.head?_filterMap, Source.currentType?]

end Tracks

/-- The line of an action that closes something stands as deep as the line of the one that opened it. -/
theorem lines_between {a b : Action} {f : Frame} {inner : List Action} (ha : a.opens? = some f)
    (hinner : Action.Balanced inner) (hb : b.closes f = true) (s : Source) :
    ∃ depth header, (s.act a).lines.back? = some (.code depth header) ∧
      (s.after (a :: (inner ++ [b]))).lines.back? = some (.code depth closeBrace) := by
  obtain ⟨hdepth, -, -, header, hline⟩ := act_of_opens ha s
  refine ⟨s.depth, header, hline, ?_⟩
  have hafter : s.after (a :: (inner ++ [b])) = ((s.act a).after inner).act b := after_append (s.act a) inner [b]
  have hinside : ((s.act a).after inner).depth = s.depth + 1 := ((Tracks.refl (s.act a)).after hinner).depth.trans hdepth
  obtain ⟨-, -, -, hclosing⟩ := act_of_closes hb ((s.act a).after inner)
  rw [hafter, hclosing, hinside, Nat.add_sub_cancel]

/-- An action that closes something has one that opened it before, and the lines of both stand equally deep. -/
theorem lines_closing (s : Source) {before : List Action} {b : Action} {frames later : List Frame}
    (hb : b = .closeType ∨ b = .closeMethod) (hbefore : Action.framesAfter? before [] = some frames)
    (hlater : b.frames? frames = some later) :
    ∃ outer a inner f, before = outer ++ a :: inner ∧ a.opens? = some f ∧ b.closes f = true ∧ Action.Balanced inner ∧
      ∃ depth header, (s.after (outer ++ [a])).lines.back? = some (.code depth header) ∧
        (s.after (before ++ [b])).lines.back? = some (.code depth closeBrace) := by
  rcases Action.frames?_cases hlater with ⟨e, rfl, -⟩ | ⟨f, hopens, -⟩ | ⟨f, hcloses, rfl⟩
  · rcases hb with hb | hb <;> cases hb
  · rcases hb with rfl | rfl <;> cases hopens
  · obtain ⟨outer, a, inner, rfl, hopens, hinner⟩ := Action.exists_opening hbefore
    obtain ⟨depth, header, hopening, hclosing⟩ := lines_between hopens hinner hcloses (s.after outer)
    refine ⟨outer, a, inner, f, rfl, hopens, hcloses, hinner, depth, header, ?_, ?_⟩
    · rwa [after_append]
    · rwa [List.append_assoc, List.cons_append, after_append]

end Source

/-! ### Scripts -/

/-- How a source is written: actions one after the other, and declarations with a script for their body, after which it
    goes on depending on what came of the body. In the end it has succeeded or failed. -/
inductive Script where
  | done (result : Except Error Unit)
  | act (action : Action) (next : Script)
  | withType (t : JavaType) (kind : DeclarationKind) (visibility : Visibility) (body : Script)
      (next : Except Error Unit → Script)

namespace Script

def run : Script → Source → Except Error Unit × Source
  | .done result, s => (result, s)
  | .act action next, s => next.run (s.act action)
  | .withType t kind visibility body next, s =>
    let (result, s) := s.withType t kind visibility body.run
    (next result).run s

/-- What comes of a script, whatever source it is run on. -/
def result : Script → Except Error Unit
  | .done result => result
  | .act _ next => next.result
  | .withType _ _ _ body next => (next body.result).result

/-- All that is done to a source, in order. -/
def actions : Script → List Action
  | .done _ => []
  | .act action next => action :: next.actions
  | .withType t kind visibility body next =>
    .openType t kind visibility :: (body.actions ++ Action.closeType :: (next body.result).actions)

/-- The script closes what it has open, the innermost first, before it ends. So do the bodies of declarations, each with
    what it opens itself. -/
def WellNested : Script → List Frame → Prop
  | .done _, frames => frames = []
  | .act action next, frames => ∃ later, action.frames? frames = some later ∧ next.WellNested later
  | .withType _ _ _ body next, frames => body.WellNested [] ∧ (next body.result).WellNested frames

theorem run_eq (script : Script) (s : Source) : script.run s = (script.result, s.after script.actions) := by
  induction script generalizing s with
  | done result => rfl
  | act action next ih => exact ih (s.act action)
  | withType t kind visibility body next ihbody ihnext =>
    have hbody : s.withType t kind visibility body.run =
        (body.result, ((s.openType t kind visibility).after body.actions).closeType) := by
      rw [Source.withType, ihbody]
    rw [run, hbody]
    refine (ihnext body.result _).trans ?_
    rw [result, actions]
    show _ = (_, (s.openType t kind visibility).after (body.actions ++ Action.closeType :: (next body.result).actions))
    rw [Source.after_append]
    rfl

theorem WellNested.framesAfter {script : Script} {frames : List Frame} (h : script.WellNested frames) :
    Action.framesAfter? script.actions frames = some [] := by
  induction script generalizing frames with
  | done result =>
    cases h
    rfl
  | act action next ih =>
    obtain ⟨later, hlater, hnext⟩ := h
    rw [actions, Action.framesAfter?, hlater]
    exact ih hnext
  | withType t kind visibility body next ihbody ihnext =>
    have hbody : Action.Balanced body.actions := ihbody h.1
    have hdeclaration := hbody.between (a := .openType t kind visibility) (b := .closeType) rfl rfl
    have hsplit : (Script.withType t kind visibility body next).actions =
        (.openType t kind visibility :: (body.actions ++ [Action.closeType])) ++ (next body.result).actions := by
      rw [actions, List.cons_append, List.append_assoc, List.singleton_append]
    rw [hsplit, Action.framesAfter?_append, hdeclaration.around]
    exact ihnext body.result h.2

end Script

/-- What a script that is run on a source does to it. -/
structure Source.Framed (s : Source) (script : Script) : Prop where
  run : script.run s = (script.result, s.after script.actions)
  depth : (script.run s).2.depth = s.depth
  opened : (script.run s).2.opened = s.opened
  currentType? : (script.run s).2.currentType? = s.currentType?
  /-- At any time the depth has grown by the number of declarations and methods that are open, and the current type is
      the innermost of these declarations. -/
  inside : ∀ {before : List Action}, before <+: script.actions → ∃ frames, Action.framesAfter? before [] = some frames ∧
    (s.after before).depth = s.depth + frames.length ∧
    (s.after before).opened = frames.filterMap Frame.type? ++ s.opened ∧
    (s.after before).currentType? = (frames.findSome? Frame.type?).or s.currentType?
  /-- Whatever is closed was opened before, and the lines of both stand equally deep. -/
  closing : ∀ {before rest : List Action} {b : Action}, script.actions = before ++ b :: rest →
    b = .closeType ∨ b = .closeMethod →
    ∃ outer a inner f, before = outer ++ a :: inner ∧ a.opens? = some f ∧ b.closes f = true ∧ Action.Balanced inner ∧
      ∃ depth header, (s.after (outer ++ [a])).lines.back? = some (.code depth header) ∧
        (s.after (before ++ [b])).lines.back? = some (.code depth closeBrace)
  /-- What was written stays. -/
  lines : ∀ {before : List Action}, before <+: script.actions →
    (s.after before).lines.toList <+: (script.run s).2.lines.toList

theorem Script.WellNested.framed {script : Script} (h : script.WellNested []) (s : Source) : s.Framed script := by
  have hrun := script.run_eq s
  have hframes := h.framesAfter
  have hend := (Source.Tracks.refl s).after hframes
  have hinside : ∀ {before : List Action}, before <+: script.actions → ∃ frames,
      Action.framesAfter? before [] = some frames ∧ s.Tracks frames (s.after before) := by
    rintro before ⟨rest, hrest⟩
    rw [← hrest, Action.framesAfter?_append] at hframes
    obtain ⟨frames, hbefore, -⟩ := Option.bind_eq_some_iff.mp hframes
    exact ⟨frames, hbefore, (Source.Tracks.refl s).after hbefore⟩
  refine ⟨hrun, ?_, ?_, ?_, fun hbefore => ?_, fun {before rest b} hsplit hb => ?_, fun {before} hbefore => ?_⟩
  · rw [hrun]
    exact hend.depth
  · rw [hrun]
    exact hend.opened
  · rw [hrun]
    exact hend.currentType?
  · obtain ⟨frames, hframes, htracks⟩ := hinside hbefore
    exact ⟨frames, hframes, htracks.depth, htracks.opened, htracks.currentType?⟩
  · rw [hsplit, Action.framesAfter?_append] at hframes
    obtain ⟨frames, hbefore, hrest⟩ := Option.bind_eq_some_iff.mp hframes
    obtain ⟨later, hlater, -⟩ := Option.bind_eq_some_iff.mp hrest
    exact s.lines_closing hb hbefore hlater
  · obtain ⟨rest, hrest⟩ := hbefore
    rw [hrun, ← hrest, Source.after_append]
    exact Source.lines_after _ _

end SchemaBeans.Java
