import SchemaBeans.Feature
import SchemaBeans.Files
import SchemaBeans.Location

/-! What can go wrong, and how it is reported. -/

namespace SchemaBeans

/-- Shapes of schemas that no type is made from. -/
inductive Unsupported where
  | notObject
  | arrayWithoutItems
  | tupleItems
  | itemsNotSchema
  | enumNotArray
deriving DecidableEq, Repr

def Unsupported.message : Unsupported → String
  | .notObject => "schema is not an object"
  | .arrayWithoutItems => "cannot generate for arrays without 'items'"
  | .tupleItems => "tuple-typed 'items' are not supported"
  | .itemsNotSchema => "'items' must be a schema"
  | .enumNotArray => "'enum' must be an array"

/-- What is wrong with the configuration of a run. -/
inductive ConfigError where
  | invalidTypeName (name : String)
  | feature (cause : FeatureError)
  | featureForm (text : String)
  | outsideBase (file base : String)
  | refused (typeName : String)
  | stated (text : String)
deriving DecidableEq, Repr

def ConfigError.message : ConfigError → String
  | .invalidTypeName name => "invalid type name '" ++ name ++ "'"
  | .feature cause => cause.message
  | .featureForm text => "feature '" ++ text ++ "' is not of the form KEY=VALUE"
  | .outsideBase file base => "schema file " ++ file ++ " is not below base directory " ++ base
  | .refused typeName => "sink refuses " ++ typeName
  | .stated text => text

/-- Why a type could not be generated or a run not be set up. -/
inductive Error where
  /-- There is no schema at a location. -/
  | missingSchema (location : Location)
  /-- No generator serves the kind of a schema. -/
  | unsupportedKind (location : Location) (kind : String)
  /-- A schema without a type is used where a type is needed. -/
  | untyped (location : Location)
  | unsupported (location : Location) (reason : Unsupported)
  /-- A `$ref` that is no reference. -/
  | invalidReference (location : Location) (reference : String)
  /-- The generation of a location failed for a reason. -/
  | generation (location : Location) (cause : Error)
  | invalidUri (text : String) (cause : UriError)
  | config (cause : ConfigError)
  | write (path : String) (cause : FileError)
  | read (path : String) (cause : FileError)
  | json
deriving DecidableEq, Repr

namespace Error

def message : Error → String
  | .missingSchema l => l.text ++ ": no schema found at this location"
  | .unsupportedKind l kind => l.text ++ ": cannot handle schema type '" ++ kind ++ "'"
  | .untyped l => l.text ++ ": schema does not produce a type and cannot be referenced"
  | .unsupported l reason => l.text ++ ": unsupported: " ++ reason.message
  | .invalidReference l reference => l.text ++ ": invalid $ref '" ++ reference ++ "'"
  | .generation l _ => l.text ++ ": code generation failed"
  | .invalidUri text cause => "invalid URI '" ++ text ++ "': " ++ cause.message
  | .config cause => "configuration error: " ++ cause.message
  | .write path cause => "failed to write " ++ path ++ ": " ++ cause.message
  | .read path cause => "failed to read " ++ path ++ ": " ++ cause.message
  | .json => "failed to parse JSON"

/-- The error behind all failed generations. -/
def rootCause : Error → Error
  | .generation _ cause => cause.rootCause
  | e => e

/-- The messages of what caused an error, from the outside in. -/
def causes : Error → List String
  | .generation _ cause => cause.message :: cause.causes
  | .invalidUri _ cause => [cause.message]
  | .write _ cause => [cause.message]
  | .read _ cause => [cause.message]
  | _ => []

end Error

end SchemaBeans
