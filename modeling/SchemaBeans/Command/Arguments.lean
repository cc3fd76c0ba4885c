import SchemaBeans.Feature
import SchemaBeans.Log.Filter
import SchemaBeans.Text.Split

/-! The arguments of the command.

The command takes the number of `-v` for how much it says, and a subcommand. The arguments of `generate`
are options, each with a value of its own after a blank or an equals sign, and schema files; after `--`
come files only. Options that are not lists may be given once. -/

namespace SchemaBeans.Command

/-! ### Requests -/

/-- The options of `generate` that have a value. -/
inductive ValueOption where
  | root
  | baseDirectory
  | mapping
  | outputDirectory
  | defaultNamespace
  | enumStyle
  | existingType
  | feature
deriving DecidableEq, Repr

namespace ValueOption

def text : ValueOption → String
  | .root => "--root"
  | .baseDirectory => "--base-directory"
  | .mapping => "--mapping"
  | .outputDirectory => "--output-directory"
  | .defaultNamespace => "--default-namespace"
  | .enumStyle => "--enum-style"
  | .existingType => "--existing-type"
  | .feature => "--feature"

def all : List ValueOption :=
  [.root, .baseDirectory, .mapping, .outputDirectory, .defaultNamespace, .enumStyle, .existingType,
    .feature]

def ofText? (s : String) : Option ValueOption := all.find? (·.text = s)

end ValueOption

/-- What `generate` is to do. -/
structure Options where
  root : Option String
  baseDirectory : Option String
  mappings : List String
  outputDirectory : Option String
  defaultNamespace : Option String
  enumStyle : Option EnumStyle
  ignoreMissingTypes : Bool
  existingTypes : List String
  features : List String
  schemas : List String
deriving Repr

namespace Options

def empty : Options :=
  { root := none, baseDirectory := none, mappings := [], outputDirectory := none
    defaultNamespace := none, enumStyle := none, ignoreMissingTypes := false, existingTypes := []
    features := [], schemas := [] }

def base (options : Options) : String := options.baseDirectory.getD "."

def output (options : Options) : String := options.outputDirectory.getD "."

end Options

/-- What is wrong with arguments. -/
inductive UsageError where
  | missingCommand
  | unexpected (argument : String)
  | missingValue (option : String)
  | surplusValue (option : String)
  | invalidValue (option value : String)
  | repeated (option : String)
  | missingSchemas
deriving DecidableEq, Repr

def UsageError.message : UsageError → String
  | .missingCommand => "a subcommand is required"
  | .unexpected argument => "unexpected argument '" ++ argument ++ "'"
  | .missingValue option => "a value is required for '" ++ option ++ "'"
  | .surplusValue option => "no value is allowed for '" ++ option ++ "'"
  | .invalidValue option value => "invalid value '" ++ value ++ "' for '" ++ option ++ "'"
  | .repeated option => "'" ++ option ++ "' cannot be used multiple times"
  | .missingSchemas => "schema files are required"

/-- What the command is asked for. -/
inductive Request where
  | version
  | help
  /-- The number of `-v`, and what to generate. -/
  | generate (verbosity : Nat) (options : Options)
deriving Repr

/-! ### Words -/

/-- An argument by its form. -/
inductive Word where
  /-- `--`, after which everything is a file. -/
  | terminator
  /-- `--name` or `--name=value`. -/
  | long (name : String) (value : Option String)
  /-- `-abc`: a row of letters. -/
  | short (letters : List Char)
  | plain (text : String)
deriving DecidableEq, Repr

/-- The form of an argument. A dash alone is plain. -/
def Word.of (argument : String) : Word :=
  match argument.toList with
  | ['-', '-'] => .terminator
  | '-' :: '-' :: _ => match Text.splitFirst? '=' argument with
    | some (name, value) => .long name (some value)
    | none => .long argument none
  | '-' :: c :: cs => .short (c :: cs)
  | _ => .plain argument

/-- What a row of letters says: how often `v` stands in it, up to a letter that asks for something else
    or means nothing. -/
inductive Letters where
  | verbose (count : Nat)
  | version
  | help
  | unknown (letter : Char)
deriving DecidableEq, Repr

def Letters.of : List Char → Letters
  | [] => .verbose 0
  | 'v' :: rest => match Letters.of rest with
    | .verbose n => .verbose (n + 1)
    | other => other
  | 'V' :: _ => .version
  | 'h' :: _ => .help
  | c :: _ => .unknown c

/-! ### The arguments of `generate` -/

/-- An argument of `generate`. -/
inductive Argument where
  | value (option : ValueOption) (text : String)
  | ignoreMissingTypes
  | verbose (count : Nat)
  | schema (path : String)
  /-- Nothing after it matters. -/
  | help
deriving DecidableEq, Repr

/-- The arguments of `generate`, where an option may be waiting for its value. -/
def readArguments : Option ValueOption → List String → Except UsageError (List Argument)
  | none, [] => .ok []
  | some option, [] => .error (.missingValue option.text)
  | some option, argument :: rest => match Word.of argument with
    | .plain text => (readArguments none rest).map (.value option text :: ·)
    | _ => .error (.missingValue option.text)
  | none, argument :: rest => match Word.of argument with
    | .terminator => .ok (rest.map .schema)
    | .plain text => (readArguments none rest).map (.schema text :: ·)
    | .short letters => match Letters.of letters with
      | .verbose n => (readArguments none rest).map (.verbose n :: ·)
      | .help => .ok [.help]
      | _ => .error (.unexpected argument)
    | .long name value => match ValueOption.ofText? name, value with
      | some option, some text => (readArguments none rest).map (.value option text :: ·)
      | some option, none => readArguments (some option) rest
      | none, some _ =>
        if name = "--ignore-missing-types" || name = "--verbose" || name = "--help" then
          .error (.surplusValue name)
        else .error (.unexpected name)
      | none, none =>
        if name = "--ignore-missing-types" then
          (readArguments none rest).map (.ignoreMissingTypes :: ·)
        else if name = "--verbose" then (readArguments none rest).map (.verbose 1 :: ·)
        else if name = "--help" then .ok [.help]
        else .error (.unexpected name)

def once {α : Type} (option : ValueOption) (old : Option α) (value : α) : Except UsageError (Option α) :=
  if old.isSome then .error (.repeated option.text) else .ok (some value)

def pathValue (name path : String) : Except UsageError String :=
  if path = "" then .error (.invalidValue name path) else .ok path

def Options.add (options : Options) (option : ValueOption) (text : String) :
    Except UsageError Options :=
  match option with
  | .root => do return { options with root := ← once option options.root text }
  | .baseDirectory => do
    let path ← pathValue option.text text
    return { options with baseDirectory := ← once option options.baseDirectory path }
  | .mapping => do
    let path ← pathValue option.text text
    return { options with mappings := options.mappings ++ [path] }
  | .outputDirectory => do
    let path ← pathValue option.text text
    return { options with outputDirectory := ← once option options.outputDirectory path }
  | .defaultNamespace => do
    return { options with defaultNamespace := ← once option options.defaultNamespace text }
  | .enumStyle => match EnumStyle.parse text with
    | .ok style => do return { options with enumStyle := ← once option options.enumStyle style }
    | .error _ => .error (.invalidValue option.text text)
  | .existingType => .ok { options with existingTypes := options.existingTypes ++ [text] }
  | .feature => .ok { options with features := options.features ++ [text] }

/-- The request that arguments of `generate` make, after those that have been read. -/
def generateRequest : List Argument → Nat → Options → Except UsageError Request
  | [], verbosity, options =>
    if options.schemas.isEmpty then .error .missingSchemas else .ok (.generate verbosity options)
  | .help :: _, _, _ => .ok .help
  | .verbose n :: rest, verbosity, options => generateRequest rest (verbosity + n) options
  | .value option text :: rest, verbosity, options => match options.add option text with
    | .ok options => generateRequest rest verbosity options
    | .error e => .error e
  | .ignoreMissingTypes :: rest, verbosity, options =>
    if options.ignoreMissingTypes then .error (.repeated "--ignore-missing-types")
    else generateRequest rest verbosity { options with ignoreMissingTypes := true }
  | .schema path :: rest, verbosity, options => match pathValue "<SCHEMAS>..." path with
    | .ok path => generateRequest rest verbosity { options with schemas := options.schemas ++ [path] }
    | .error e => .error e

/-! ### The arguments of the command -/

/-- Help is about the command or about one of its subcommands. -/
def helpRequest : List String → Except UsageError Request
  | [] => .ok .help
  | command :: rest => match ["generate", "help"].contains command, rest with
    | true, [] => .ok .help
    | true, extra :: _ => .error (.unexpected extra)
    | false, _ => .error (.unexpected command)

/-- The request that the arguments of the command make. -/
def readRequest : Nat → List String → Except UsageError Request
  | _, [] => .error .missingCommand
  | verbosity, argument :: rest => match Word.of argument with
    | .terminator => .error .missingCommand
    | .plain text =>
      if text = "generate" then do
        match ← generateRequest (← readArguments none rest) 0 .empty with
        -- The number of `-v` before the subcommand counts where there is none after it.
        | .generate 0 options => return .generate verbosity options
        | request => return request
      else if text = "help" then helpRequest rest
      else .error (.unexpected argument)
    | .short letters => match Letters.of letters with
      | .verbose n => readRequest (verbosity + n) rest
      | .version => .ok .version
      | .help => .ok .help
      | .unknown _ => .error (.unexpected argument)
    | .long name (some _) =>
      if name = "--verbose" || name = "--version" || name = "--help" then .error (.surplusValue name)
      else .error (.unexpected name)
    | .long name none =>
      if name = "--verbose" then readRequest (verbosity + 1) rest
      else if name = "--version" then .ok .version
      else if name = "--help" then .ok .help
      else .error (.unexpected name)

abbrev Environment := List (String × String)

/-- Options with what the environment says where they say nothing. -/
def Options.withEnvironment (options : Options) (environment : Environment) : Options :=
  { options with
    root := options.root.or (environment.lookup "JSONSCHEMA_ROOT_URI")
    defaultNamespace := options.defaultNamespace.or
      (environment.lookup "JSONSCHEMA_DEFAULT_NAMESPACE") }

/-! ### How much is said -/

/-- The level for a number of `-v`. -/
def verbosityLevel : Nat → LogLevel
  | 0 => .warn
  | 1 => .info
  | 2 => .debug
  | _ => .trace

/-- The messages that are shown: those that the environment names, or those up to the level for the number
    of `-v`. -/
def messageFilter (verbosity : Nat) (environment : Environment) : LogFilter :=
  ((environment.lookup "RUST_LOG").bind LogFilter.parse?).getD (LogFilter.upTo (verbosityLevel verbosity))

end SchemaBeans.Command
