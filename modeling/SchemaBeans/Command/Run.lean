import SchemaBeans.Command.Arguments
import SchemaBeans.Mapping.File
import SchemaBeans.Session.Generate
import SchemaBeans.Text.Blank

/-! A run of the command.

The command reads its arguments, the environment and files, and results in an exit status, in what it
prints and in new files. -/

namespace SchemaBeans.Command

/-- What a run results in. -/
structure Report where
  status : Nat
  output : String
  /-- The lines printed besides the output. -/
  lines : List String
  files : Files
  /-- The paths that the run looked at or wrote to. -/
  consulted : List String

/-! ### Setting up -/

/-- The URI below which the base directory is published. -/
def rootUri (files : Files) (options : Options) : Except Error Uri :=
  match options.root with
  | some text => match Uri.parse text with
    | .ok root => .ok root.asRoot
    | .error cause => .error (.invalidUri text cause)
  | none => (Catalog.absolutePath files options.base).map fun path => (Uri.ofDirectory path).asRoot

/-- The schema files of a run: their documents, and the URI each has been given. -/
structure Inputs where
  documents : Table Uri Json
  uris : List Uri

/-- Reads schema files one after the other, up to the first that fails. -/
def readSchemas (files : Files) (root : Uri) (base : String) :
    List String → Inputs → List LogEntry → Except Error Inputs × List LogEntry
  | [], inputs, log => (.ok inputs, log)
  | path :: rest, inputs, log =>
    match Catalog.fileUri files root base path with
    | .error e => (.error e, log)
    | .ok uri => match Catalog.preloadFile files inputs.documents uri path with
      | .error e => (.error e, log)
      | .ok (documents, entry) =>
        readSchemas files root base rest ⟨documents, inputs.uris ++ [uri.withFragment ""]⟩
          (entry :: log)

def addMappingFile (root : Uri) (s : Session) (path : String) : Except Error Session :=
  match s.files.readText path with
  | .error cause => .error (.read path cause)
  | .ok text => do
    let file ← MappingFile.parse text
    let mappings ← (file.withDefaultBase root.text).resolve
    return mappings.foldl Session.addMapping s

def addFeature (s : Session) (text : String) : Except Error Session :=
  match Text.splitFirst? '=' text with
  | none => .error (.config (.featureForm text))
  | some (key, value) => match s.setText (Text.trim key) (Text.trim value) with
    | .ok s => .ok s
    | .error cause => .error (.config (.feature cause))

def setOptional {α : Type} [FeatureType α] (s : Session) (feature : Feature α) :
    Option α → Except Error Session
  | none => .ok s
  | some value => match s.setFeature feature value with
    | .ok (_, s) => .ok s
    | .error cause => .error (.config (.feature cause))

/-- Sets up a session with mappings, features and existing types. -/
def configure (root : Uri) (options : Options) (s : Session) : Except Error Session := do
  let s ← options.mappings.foldlM (addMappingFile root) s
  let s ← options.features.foldlM addFeature s
  let s ← setOptional s Feature.defaultPackage options.defaultNamespace
  let s ← setOptional s Feature.enumStyle options.enumStyle
  let s ← setOptional s Feature.ignoreMissingTypes (if options.ignoreMissingTypes then some true else none)
  return options.existingTypes.foldl Session.addExisting s

/-! ### Generating -/

/-- The line that reports an error, and one for each cause. -/
def errorLines (e : Error) : List String :=
  ("error: " ++ e.message) :: e.causes.map ("  caused by: " ++ ·)

def typeLine (uri : Uri) (type : Option JavaType) : String :=
  uri.text ++ ": " ++ (type.map JavaType.text).getD "no type"

/-- The status of a run that leaves its bounds. -/
def crashStatus : Nat := 101

/-- The lines of a log, which has the latest first, that a filter shows. -/
def logLines (filter : LogFilter) (log : List LogEntry) : List String :=
  (log.reverse.filter filter.shows).map LogEntry.text

def consulted (root : Uri) (options : Options) (s : Session) : List String :=
  (s.documents.asked.filterMap (Catalog.servedPath? root options.base)).map Text.Utf8.decode ++
    s.written.map fun w => (OutputDirectory.mk options.output).path w.type

/-- Generates the sources for schema files. -/
def generate (files : Files) (filter : LogFilter) (options : Options) : Report :=
  let given := options.schemas ++ options.mappings
  let failure (e : Error) (log : List LogEntry) : Report :=
    ⟨1, "", logLines filter log ++ errorLines e, files, given⟩
  match rootUri files options with
  | .error e => failure e []
  | .ok root =>
    let served := ⟨.command, .debug, root.text ++ ": served from " ++ options.base⟩
    match readSchemas files root options.base options.schemas ⟨[], []⟩ [served] with
    | (.error e, log) => failure e log
    | (.ok inputs, log) =>
      let catalog := .chain [.preloaded inputs.documents, .directory root options.base]
      let fresh := Session.new catalog (.directory ⟨options.output⟩) files
      match configure root options { fresh with log } with
      | .error e => failure e log
      | .ok s => match s.generateAll (inputs.uris.map Location.ofUri) with
        | none => ⟨crashStatus, "", [], files, given⟩
        | some (.error e, s) =>
          ⟨1, "", logLines filter s.log ++ errorLines e, s.files, given ++ consulted root options s⟩
        | some (.ok types, s) =>
          ⟨0, "", logLines filter s.log ++ List.zipWith typeLine inputs.uris types, s.files,
            given ++ consulted root options s⟩

/-! ### The command -/

def versionText : String := "jsonschema-bean-gen 0.1.0\n"

def helpText : String :=
  String.intercalate "\n"
    ["Generate Java bean sources from JSON Schema", "",
      "Usage: jsonschema-bean-gen [OPTIONS] generate [OPTIONS] <SCHEMAS>...", "",
      "Arguments:",
      "  <SCHEMAS>...  Schema files to generate types for", "",
      "Options:",
      "      --root <ROOT>                            URI the base directory is published under",
      "      --base-directory <BASE_DIRECTORY>        Directory containing the schema files",
      "      --mapping <MAPPINGS>                     JSON mapping file pinning schema locations to types",
      "      --output-directory <OUTPUT_DIRECTORY>    Output directory for generated sources",
      "      --default-namespace <DEFAULT_NAMESPACE>  Package for types without a mapping",
      "      --enum-style <ENUM_STYLE>                How string enums are emitted",
      "      --ignore-missing-types                   Assume types that fail to generate exist anyway",
      "      --existing-type <EXISTING_TYPES>         Fully-qualified name of a type that already exists",
      "      --feature <KEY=VALUE>                    Set an engine feature",
      "  -v, --verbose...                             Enable verbose output",
      "  -h, --help                                   Print help",
      "  -V, --version                                Print version", ""]

def run (files : Files) (environment : Environment) (arguments : List String) : Report :=
  match readRequest 0 arguments with
  | .error e => ⟨2, "", ["error: " ++ e.message], files, []⟩
  | .ok .version => ⟨0, versionText, [], files, []⟩
  | .ok .help => ⟨0, helpText, [], files, []⟩
  | .ok (.generate verbosity options) =>
    generate files (messageFilter verbosity environment) (options.withEnvironment environment)

end SchemaBeans.Command
