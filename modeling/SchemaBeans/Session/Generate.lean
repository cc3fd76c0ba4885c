import SchemaBeans.Kind
import SchemaBeans.Session

/-! Generation: from a location to its type.

A location is pending while its type is generated. Whoever asks for it meanwhile gets the type it stands
for: that of the location it refers to, a list for an array, or else the type bound to it. So schemas
that refer to themselves come to an end.

Every function that generates is given a bound on how deep generations may be nested, and answers
nothing when the bound is too small. `Session.generate` computes one that suffices from the catalog. -/

namespace SchemaBeans

open Java (Source)

/-- An action that has an answer and changes the session, or runs out of bounds. -/
abbrev Outcome (α : Type) := Option (Except Error α × Session)

/-- Runs a plan; `ask` answers its requests. -/
def Plan.run (ask : Location → Session → Outcome (Option JavaType)) :
    Plan → Session → Outcome (Option JavaType × Source)
  | .done type source, s => some (.ok (type, source), s)
  | .fail e, s => some (.error e, s)
  | .note entry next, s => run ask next (s.note entry)
  | .request location next, s => match ask location s with
    | none => none
    | some (answer, s) => run ask (next answer) s

namespace Session

/-! ### Pending locations -/

/-- From a pending location towards the type it stands for. -/
inductive Hop where
  /-- It refers to another location. -/
  | reference (target : Location)
  /-- It is an array with items of another location. -/
  | items (target : Location)
deriving DecidableEq, Repr

/-- The hop from a node; nothing where the location stands for a type of its own. -/
def hopFrom (location : Location) (node : Json) : Except Error (Option Hop) :=
  match Reference.target? location node with
  | .error e => .error e
  | .ok (some target) => .ok (some (.reference target))
  | .ok none =>
    if Kind.isArray node then match node.get? "items" with
      | none => .ok none
      -- Items that are listed one by one have no common type.
      | some (.array _) => .ok none
      | some items => (Reference.typeTarget? (location.child "items") items).map (Option.map .items)
    else .ok none

def hop (s : Session) (location : Location) : Except Error (Option Hop) × Session :=
  match s.resolve location with
  | (.error e, s) => (.error e, s)
  | (.ok node, s) => (hopFrom location node, s)

/-- Where the hops from a pending location lead. -/
inductive Walk where
  /-- Back to a location passed before. -/
  | cycle
  /-- To a location, through a number of arrays. -/
  | stop (target : Location) (lists : Nat)
deriving DecidableEq, Repr

/-- Follows hops as long as they pass through pending locations. -/
def walk : Nat → List Location → Nat → Location → Session → Except Error Walk × Session
  -- There are no more locations to pass than records, so a larger bound is never used up.
  | 0, _, _, _, s => (.ok .cycle, s)
  | fuel + 1, seen, lists, current, s =>
    if !s.isPending current then (.ok (.stop current lists), s)
    else if current ∈ seen then (.ok .cycle, s)
    else match s.hop current with
      | (.error e, s) => (.error e, s)
      | (.ok none, s) => (.ok (.stop current lists), s)
      | (.ok (some (.reference target)), s) => walk fuel (current :: seen) lists target s
      | (.ok (some (.items target)), s) => walk fuel (current :: seen) (lists + 1) target s

def nested : Nat → JavaType → JavaType
  | 0, t => t
  | n + 1, t => nested n t.listOf

/-- The type that a pending location stands for. -/
def pendingType (ask : Location → Session → Outcome (Option JavaType)) (location : Location)
    (s : Session) : Outcome (Option JavaType) :=
  let own (s : Session) : Outcome (Option JavaType) := some (.ok (s.mappings.type? location), s)
  match walk (s.records.length + 1) [] 0 location s with
  | (.error e, s) => some (.error e, s)
  | (.ok .cycle, s) => own s
  | (.ok (.stop target lists), s) =>
    if target = location then own s
    else
      -- A target that is pending too has its own type to give.
      let element := if s.isPending target then some (.ok (s.mappings.type? target), s)
        else ask target s
      match element with
      | none => none
      | some (.error e, s) => some (.error e, s)
      | some (.ok none, s) => own s
      | some (.ok (some t), s) => some (.ok (some (nested lists t)), s)

/-! ### New locations -/

/-- Runs a generator for a task, and writes the source if there is one. -/
def perform (ask : Location → Session → Outcome (Option JavaType)) (generator : Generator)
    (task : Task) (s : Session) : Outcome (Option JavaType) :=
  match (generator task).run ask s with
  | none => none
  | some (.error e, s) => some (.error e, s)
  | some (.ok (type, source), s) =>
    if source.isEmpty then some (.ok type, s)
    else match source.finish with
      -- A source with an open declaration cannot be written.
      | .error _ => none
      | .ok text => match s.write task.location (type.getD task.requested) text with
        | (.error e, s) => some (.error e, s)
        | (.ok (), s) => some (.ok type, s)

/-- The type of a schema that is no reference. -/
def dispatch (ask : Location → Session → Outcome (Option JavaType)) (location : Location)
    (requested : JavaType) (schema : Json) (s : Session) : Outcome (Option JavaType) :=
  if !schema.isObject then some (.error (.unsupported location .notObject), s)
  else
    let s := if (schema.get? Kind.keyword).isSome then s else
      s.say .warn (location.text ++ ": missing type keyword, assuming '" ++ Kind.fallback ++ "'")
    match Kind.of location schema with
    | .error e => some (.error e, s)
    | .ok none => some (.ok none, s)
    | .ok (some kind) => match s.generators.get? kind with
      | none => some (.error (.unsupportedKind location kind), s)
      | some generator => perform ask generator ⟨location, requested, schema, s.features⟩ s

/-- The type of a location that was not asked for before. -/
def produce (ask : Location → Session → Outcome (Option JavaType)) (location : Location)
    (requested : JavaType) (s : Session) : Outcome (Option JavaType) :=
  -- Primitive and existing types win over whatever the schema says.
  if requested.isPrimitive || s.known.contains requested then some (.ok (some requested), s)
  else match s.resolve location with
    | (.error e, s) => some (.error e, s)
    | (.ok schema, s) => match Reference.target? location schema with
      | .error e => some (.error e, s)
      | .ok (some target) =>
        ask target (s.say .debug (location.text ++ ": alias of " ++ target.text))
      | .ok none => dispatch ask location requested schema s

/-- Records the type of a location. -/
def settle (s : Session) (location : Location) (bound : JavaType) (isNew : Bool)
    (type : Option JavaType) : Session :=
  -- A name that was found for the location and is not used is given back.
  let s := if isNew && type ≠ some bound then
      let s := s.say .debug (location.text ++ ": resolved without emitting " ++ bound.text ++
        ", releasing name")
      { s with names := s.names.release bound, mappings := s.mappings.put ⟨location, none⟩ }
    else s
  s.setRecord location (.resolved type)

/-- Reports a failure, or takes the type to exist if missing types are ignored. -/
def giveUp (s : Session) (location : Location) (bound : JavaType) (cause : Error) :
    Answer × Session :=
  if s.features.value Feature.ignoreMissingTypes then
    let s := s.say .warn (location.text ++ ": ignoring generation failure, assuming " ++
      bound.text ++ " exists: " ++ cause.rootCause.message)
    (.ok (some bound), s.setRecord location (.failed bound))
  else (.error (.generation location cause), s.eraseRecord location)

/-! ### Generation -/

/-- The type of a location; `ask` answers for the locations it needs. -/
def respond (ask : Location → Session → Outcome (Option JavaType)) (location : Location)
    (s : Session) : Outcome (Option JavaType) :=
  match s.record? location with
  | some (.resolved type) =>
    some (.ok type, s.say .debug (location.text ++ ": already generated"))
  | some (.failed type) => some (.ok (some type), s)
  | some .pending =>
    pendingType ask location (s.say .debug (location.text ++ ": in progress"))
  | none =>
    -- From here on the location is pending, and asking for it again does not start over.
    let (bound, isNew, s) := s.bindType location
    match produce ask location bound (s.setRecord location .pending) with
    | none => none
    | some (.ok type, s) => some (.ok type, s.settle location bound isNew type)
    | some (.error e, s) => some (s.giveUp location bound e)

/-- The type of a location, with at most `fuel` generations nested. -/
def generateWithin : Nat → Location → Session → Outcome (Option JavaType)
  | 0, _, _ => none
  | fuel + 1, location, s => match respond (generateWithin fuel) location s with
    | none => none
    | some (answer, s) => some (answer, s.reply location answer)

/-- How deep generations can be nested: between two locations that become pending there is at most one
    that is pending already. -/
def depth (s : Session) : Nat := 2 * s.catalog.extent + 2

def generate (s : Session) (location : Location) : Outcome (Option JavaType) :=
  generateWithin s.depth location s

/-- The types of locations, one after the other, up to the first that fails. -/
def generateAll (s : Session) : List Location → Outcome (List (Option JavaType))
  | [] => some (.ok [], s)
  | location :: rest => match s.generate location with
    | none => none
    | some (.error e, s) => some (.error e, s)
    | some (.ok type, s) => match s.generateAll rest with
      | none => none
      | some (.error e, s) => some (.error e, s)
      | some (.ok types, s) => some (.ok (type :: types), s)

end Session

end SchemaBeans
