import SchemaBeans.Table

/-! Features: the settings of a run.

A feature is a key with a type and a default. Values of all types are kept in one table, so reading a
feature through a key that holds a value of another type is an error; the features of this library have
different keys. Values from the command line are texts, read by the type of the feature. -/

namespace SchemaBeans

/-- How a string schema with an `enum` keyword is written. -/
inductive EnumStyle where
  /-- An enum with one constant for each value. -/
  | native
  /-- A class with one string constant for each value. -/
  | constants
deriving DecidableEq, Repr, Inhabited

def EnumStyle.text : EnumStyle → String
  | .native => "native"
  | .constants => "constants"

/-- Why a text is no value of a feature. -/
inductive SettingError where
  | notBoolean (text : String)
  | unknownEnumStyle (text : String)
deriving DecidableEq, Repr

def SettingError.message : SettingError → String
  | .notBoolean text => "'" ++ text ++ "' is not a boolean"
  | .unknownEnumStyle text => "unknown enum style '" ++ text ++ "' (expected native or constants)"

def EnumStyle.parse (text : String) : Except SettingError EnumStyle :=
  if text = "native" || text = "enum" then .ok .native
  else if text = "constants" || text = "class" then .ok .constants
  else .error (.unknownEnumStyle text)

def parseBool (text : String) : Except SettingError Bool :=
  if text = "true" || text = "yes" || text = "1" then .ok true
  else if text = "false" || text = "no" || text = "0" then .ok false
  else .error (.notBoolean text)

/-- A value of a feature. -/
inductive Setting where
  | bool (value : Bool)
  | text (value : String)
  | enumStyle (value : EnumStyle)
deriving DecidableEq, Repr

def Setting.typeName : Setting → String
  | .bool _ => "bool"
  | .text _ => "string"
  | .enumStyle _ => "enum-style"

/-- The types a feature can have. -/
class FeatureType (α : Type) where
  typeName : String
  setting : α → Setting
  value? : Setting → Option α
  parse : String → Except SettingError α

instance : FeatureType Bool where
  typeName := "bool"
  setting := .bool
  value?
    | .bool b => some b
    | _ => none
  parse := parseBool

instance : FeatureType String where
  typeName := "string"
  setting := .text
  value?
    | .text s => some s
    | _ => none
  parse := .ok

instance : FeatureType EnumStyle where
  typeName := "enum-style"
  setting := .enumStyle
  value?
    | .enumStyle s => some s
    | _ => none
  parse := EnumStyle.parse

/-- A setting with its key and its default. -/
structure Feature (α : Type) where
  key : String
  default : α

namespace Feature

/-- The package of types whose location has no mapping. -/
def defaultPackage : Feature String := ⟨"default-namespace", "anonymous"⟩

def enumStyle : Feature EnumStyle := ⟨"enum-style", .native⟩

/-- Whether a type that cannot be generated is taken to exist. -/
def ignoreMissingTypes : Feature Bool := ⟨"ignore-missing-types", false⟩

/-- Whether every string schema is a plain string. -/
def simplePlainTypes : Feature Bool := ⟨"simple-plain-types", false⟩

end Feature

/-- Why a feature cannot be read or set. -/
inductive FeatureError where
  | unknownKey (key : String)
  | invalidValue (key : String) (cause : SettingError)
  | wrongType (key held expected : String)
deriving DecidableEq, Repr

def FeatureError.message : FeatureError → String
  | .unknownKey key => "unknown feature '" ++ key ++ "'"
  | .invalidValue key cause => "feature '" ++ key ++ "': " ++ cause.message
  | .wrongType key held expected =>
    "feature '" ++ key ++ "' holds a " ++ held ++ " value, expected " ++ expected

/-- The values that have been set. -/
structure Features where
  values : Table String Setting
deriving Repr

namespace Features

variable {α : Type} [FeatureType α]

def empty : Features := ⟨[]⟩

/-- The value of a feature: what was set, or its default. -/
def get (features : Features) (feature : Feature α) : Except FeatureError α :=
  match features.values.get? feature.key with
  | none => .ok feature.default
  | some setting => match FeatureType.value? setting with
    | some value => .ok value
    | none => .error (.wrongType feature.key setting.typeName (FeatureType.typeName α))

def set (features : Features) (feature : Feature α) (value : α) : Except FeatureError (α × Features) :=
  match features.get feature with
  | .ok previous => .ok (previous, ⟨features.values.put feature.key (FeatureType.setting value)⟩)
  | .error e => .error e

def setParsed (features : Features) (feature : Feature α) (text : String) :
    Except FeatureError Features :=
  match FeatureType.parse text with
  | .ok (value : α) => (features.set feature value).map (·.2)
  | .error cause => .error (.invalidValue feature.key cause)

def setText (features : Features) (key text : String) : Except FeatureError Features :=
  if key = Feature.defaultPackage.key then features.setParsed Feature.defaultPackage text
  else if key = Feature.enumStyle.key then features.setParsed Feature.enumStyle text
  else if key = Feature.ignoreMissingTypes.key then features.setParsed Feature.ignoreMissingTypes text
  else if key = Feature.simplePlainTypes.key then features.setParsed Feature.simplePlainTypes text
  else .error (.unknownKey key)

/-- The value of a feature, its default where another type is stored. -/
def value (features : Features) (feature : Feature α) : α :=
  match features.get feature with
  | .ok value => value
  | .error _ => feature.default

end Features

end SchemaBeans
