import SchemaBeans.Documents
import SchemaBeans.Generators
import SchemaBeans.Java.Known
import SchemaBeans.Mapping
import SchemaBeans.Names
import SchemaBeans.Output
import SchemaBeans.TypeName

/-! Sessions: the state of a run.

A session holds the configuration of a run, the names and the mappings given out so far, the documents
read, what became of every location asked for, and what was written. Its journal tells in which order
locations were recorded and answered. -/

namespace SchemaBeans

/-- What became of a location. -/
inductive Record where
  /-- Its type is being generated. -/
  | pending
  /-- It has a type, or is known to have none. -/
  | resolved (type : Option JavaType)
  /-- Its generation failed, and the type is taken to exist. -/
  | failed (type : JavaType)
deriving DecidableEq, Repr

/-- A source that was written for a location. -/
structure Written where
  location : Location
  type : JavaType
  text : String
deriving DecidableEq, Repr

/-- What happened to a location. -/
inductive Event where
  | recorded (location : Location) (record : Record)
  /-- Its record was taken back. -/
  | erased (location : Location)
  /-- It was asked for, and this was the answer. -/
  | answered (location : Location) (answer : Answer)

/-- The state of a run. -/
structure Session where
  features : Features
  known : KnownTypes
  mappings : Mappings
  names : Names
  catalog : Catalog
  documents : Documents
  generators : Generators
  records : Table Location Record
  output : Output
  files : Files
  /-- The sources written, the latest last. -/
  written : List Written
  /-- What happened to locations, the latest first. -/
  journal : List Event
  /-- The messages noted, the latest first. -/
  log : List LogEntry

namespace Session

def new (catalog : Catalog) (output : Output) (files : Files) : Session :=
  { features := .empty, known := .standard, mappings := .empty, names := .empty, catalog
    documents := .empty, generators := .standard, records := [], output, files, written := []
    journal := [], log := [] }

/-! ### Configuration -/

/-- Adds a mapping. The name of its type is not given to any other location. -/
def addMapping (s : Session) (mapping : Mapping) : Session :=
  let names := match mapping.type with
    | some t => s.names.reserve t
    | none => s.names
  { s with names, mappings := s.mappings.put mapping }

def setText (s : Session) (key text : String) : Except FeatureError Session :=
  (s.features.setText key text).map fun features => { s with features }

def setFeature {α : Type} [FeatureType α] (s : Session) (feature : Feature α) (value : α) :
    Except FeatureError (α × Session) :=
  (s.features.set feature value).map fun (previous, features) => (previous, { s with features })

def addExisting (s : Session) (name : String) : Session :=
  { s with known := s.known.insert name }

def register (s : Session) (kind : String) (generator : Generator) : Session :=
  { s with generators := s.generators.register kind generator }

/-! ### Steps -/

def note (s : Session) (entry : LogEntry) : Session :=
  { s with log := entry :: s.log }

def say (s : Session) (level : LogLevel) (message : String) : Session :=
  s.note ⟨.session, level, message⟩

def record? (s : Session) (location : Location) : Option Record :=
  s.records.get? location

def isPending (s : Session) (location : Location) : Bool :=
  s.record? location = some .pending

def setRecord (s : Session) (location : Location) (record : Record) : Session :=
  { s with records := s.records.put location record
           journal := .recorded location record :: s.journal }

def eraseRecord (s : Session) (location : Location) : Session :=
  { s with records := s.records.erase location, journal := .erased location :: s.journal }

/-- Notes in the journal what a location was answered with. -/
def reply (s : Session) (location : Location) (answer : Answer) : Session :=
  { s with journal := .answered location answer :: s.journal }

def resolve (s : Session) (location : Location) : Except Error Json × Session :=
  let (node, documents, log) := s.documents.resolve s.catalog s.files location
  -- The log has the latest message first, the messages of a lookup come in order.
  (node, { s with documents, log := log.reverse ++ s.log })

/-- The type that a location is to have, found for it where it has none, and whether it was found now. -/
def bindType (s : Session) (location : Location) : JavaType × Bool × Session :=
  match s.mappings.type? location with
  | some t => (t, false, s)
  | none =>
    let (t, names) := s.names.unique (s.features.value Feature.defaultPackage) (typeName location)
    let s := s.say .debug (location.text ++ ": no mapping defined, using " ++ t.text)
    (t, true, { s with names, mappings := s.mappings.put ⟨location, some t⟩ })

def write (s : Session) (location : Location) (t : JavaType) (text : String) :
    Except Error Unit × Session :=
  let s := s.say .info (location.text ++ ": writing " ++ t.text)
  match s.output.write s.files t text with
  | (.ok (), output, files) =>
    (.ok (), { s with output, files, written := s.written ++ [⟨location, t, text⟩] })
  -- Directories may have been made before the failure.
  | (.error e, output, files) => (.error e, { s with output, files })

end Session

end SchemaBeans
