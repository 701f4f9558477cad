import DsnBinding.Metadata
import DsnBinding.Record
import DsnBinding.Template.Fault

/-!
Why a record type has no schema.
-/
namespace DsnBinding

inductive SchemaError where
  | notARecord (shown : String)
  | missingTemplate (recordName : Text)
  | unresolvedReference (recordName : Text) (reason : String)
  | template (error : Template.Error)
  | invalidMetadata (name : Text) (violations : List Metadata.Violation)
  | unsupportedType (name : Text) (type : ResolvedType)
  | paramsNotAMap (name : Text) (kind : FieldKind)
  | unknownVariable (recordName variableName : Text)
  deriving Repr, DecidableEq, Inhabited

namespace SchemaError

def code : SchemaError → String
  | notARecord _ => "not_a_record"
  | missingTemplate _ => "missing_template"
  | unresolvedReference .. | unsupportedType .. | paramsNotAMap .. => "unsupported_type"
  | template error => error.code
  | invalidMetadata .. => "invalid_metadata"
  | unknownVariable .. => "unknown_variable"

def subject? : SchemaError → Option Text
  | notARecord _ | missingTemplate _ | unresolvedReference .. | template _ => none
  | invalidMetadata name _ | unsupportedType name _ | paramsNotAMap name _ => some name
  | unknownVariable _ variableName => some variableName

def message : SchemaError → String
  | notARecord shown => shown ++ " is not an attrs class"
  | missingTemplate recordName =>
    String.ofList recordName ++ " has no " ++ String.ofList Reserved.templateName ++
      " string attribute"
  | unresolvedReference recordName reason =>
    "Cannot resolve the annotations of " ++ String.ofList recordName ++ ": " ++ reason
  | template error => error.message
  | invalidMetadata name _ =>
    "Invalid DSN metadata for field " ++ String.ofList name ++ ": <pydantic>"
  | unsupportedType name type =>
    "Field " ++ String.ofList name ++ " has an unsupported type " ++ type.shown
  | paramsNotAMap name kind =>
    "Field " ++ String.ofList name ++
      " receives the query parameters so it must be a mapping, not " ++ String.ofList kind.label
  | unknownVariable recordName variableName =>
    "Template variable $" ++ String.ofList variableName ++ " of " ++ String.ofList recordName ++
      " has no matching field"

end SchemaError

/-- Why no schema comes about. Only a refused type is reported as an error of the schema. -/
inductive SchemaFailure where
  | refused (error : SchemaError)
  | unusable (error : UnusableReference)
  /-- The message cannot show what stands in place of a type. -/
  | unshown
  deriving Repr, DecidableEq, Inhabited

def SchemaFailure.notARecord (type : RecordType) : SchemaFailure :=
  match type.shown? with
  | some shown => .refused (.notARecord shown)
  | none => .unshown

def ReferenceError.toSchemaFailure (recordName : Text) : ReferenceError → SchemaFailure
  | undefined message => .refused (.unresolvedReference recordName message)
  | unusable error => .unusable error

end DsnBinding
