import Stylebook.Decoding.Scalar

/-!
Issues that checks report, and the verdict on a list of them. A verdict is good if no issue is an
error; a strict one admits no warning either.
-/

namespace Stylebook

inductive Severity where
  | error
  | warning
  | info
  deriving DecidableEq, Repr

namespace Severity

def name : Severity → String
  | error => "error"
  | warning => "warning"
  | info => "info"

def ofName? (s : String) : Option Severity := [error, warning, info].find? fun v => v.name == s

end Severity

inductive IssueCode where
  | unknownConstraintProperty
  | unknownForbiddenProperty
  | unknownRequiredProperty
  | unknownMappingProperty
  | emptyEnum
  | emptyTokenValue
  | invalidDefault
  | invalidRange
  | invalidTokenName
  | invalidPropertyName
  | nameMismatch
  | missingRequiredProp
  | unknownProperty
  | typeMismatch
  | outOfRange
  | invalidEnumValue
  | unknownComponent
  | forbiddenProp
  | missingRequired
  | invalidValue
  | dynamicValue
  | validatorError
  | custom (name : String)
  deriving DecidableEq, Repr

def IssueCode.name : IssueCode → String
  | unknownConstraintProperty => "UNKNOWN_CONSTRAINT_PROPERTY"
  | unknownForbiddenProperty => "UNKNOWN_FORBIDDEN_PROPERTY"
  | unknownRequiredProperty => "UNKNOWN_REQUIRED_PROPERTY"
  | unknownMappingProperty => "UNKNOWN_MAPPING_PROPERTY"
  | emptyEnum => "EMPTY_ENUM"
  | emptyTokenValue => "EMPTY_TOKEN_VALUE"
  | invalidDefault => "INVALID_DEFAULT"
  | invalidRange => "INVALID_RANGE"
  | invalidTokenName => "INVALID_TOKEN_NAME"
  | invalidPropertyName => "INVALID_PROPERTY_NAME"
  | nameMismatch => "COMPONENT_NAME_MISMATCH"
  | missingRequiredProp => "MISSING_REQUIRED_PROP"
  | unknownProperty => "UNKNOWN_PROPERTY"
  | typeMismatch => "TYPE_MISMATCH"
  | outOfRange => "VALUE_OUT_OF_RANGE"
  | invalidEnumValue => "INVALID_ENUM_VALUE"
  | unknownComponent => "UNKNOWN_COMPONENT"
  | forbiddenProp => "CONSTRAINT_FORBIDDEN_PROP"
  | missingRequired => "CONSTRAINT_MISSING_REQUIRED"
  | invalidValue => "CONSTRAINT_INVALID_VALUE"
  | dynamicValue => "DYNAMIC_VALUE"
  | validatorError => "VALIDATOR_ERROR"
  | custom name => name

structure Issue where
  severity : Severity
  code : IssueCode
  message : String
  path : String
  suggestion : Option String
  deriving DecidableEq, Repr

namespace Issue

/-- The issue on one line, with its code in front and its path after it. -/
def line (i : Issue) : String := "[" ++ i.code.name ++ "] " ++ i.message ++ " (" ++ i.path ++ ")"

def toValue (i : Issue) : Value :=
  .record [
    ("severity", .text i.severity.name),
    ("code", .text i.code.name),
    ("message", .text i.message),
    ("path", .text i.path),
    ("suggestion", .ofOption .text i.suggestion)]

open Decoded Decoding

def decode : Value → Decoded Issue :=
  record fun fs =>
    (fun severity code message path suggestion => ⟨severity, .custom code, message, path, suggestion⟩)
      <$> required fs ["severity"] (member Severity.ofName?)
      <*> required fs ["code"] text
      <*> required fs ["message"] text
      <*> required fs ["path"] text
      <*> optional fs ["suggestion"] none (nullable text)

end Issue

structure Verdict where
  valid : Bool
  issues : List Issue
  deriving DecidableEq, Repr

namespace Verdict

/-- Does an issue of this severity stand against a good verdict? -/
def fails (strict : Bool) : Severity → Bool
  | .error => true
  | .warning => strict
  | .info => false

def ofIssues (issues : List Issue) (strict : Bool) : Verdict :=
  ⟨!issues.any fun i => fails strict i.severity, issues⟩

def errors (v : Verdict) : List Issue := v.issues.filter fun i => i.severity == .error

def warnings (v : Verdict) : List Issue := v.issues.filter fun i => i.severity == .warning

end Verdict

end Stylebook
