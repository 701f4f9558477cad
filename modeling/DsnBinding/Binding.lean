import DsnBinding.Field.Coercion
import DsnBinding.Pattern.Matching
import DsnBinding.Record

/-!
Binding writes what a DSN contains into a record, field by field. A field with the role of the
parameters takes all of them; otherwise the scheme, a captured text and the default of the field are
tried in this order, and a field for which none is there is left alone. The first field that fails
ends the binding, and what was written before it stays. Attributes are written as plain records are,
unless another way to assign is given.
-/
namespace DsnBinding

/-- What a DSN contains: the captured texts, its scheme and its parameters. -/
structure Contents where
  captures : Captures
  scheme : Text
  query : Query
  deriving Repr, DecidableEq, Inhabited

inductive BindingError where
  | coercion (field : Text) (error : CoercionError)
  | readOnly (field typeName : Text) (error : AssignmentError)
  deriving Repr, DecidableEq, Inhabited

namespace BindingError

def field : BindingError → Text
  | coercion field _ | readOnly field _ _ => field

def code : BindingError → String
  | coercion _ error => error.code
  | readOnly .. => "read_only_record"

def message : BindingError → String
  | coercion field error => "Cannot bind field " ++ String.ofList field ++ ": " ++ error.message
  | readOnly field typeName error =>
    "Cannot set field " ++ String.ofList field ++ " of " ++ String.ofList typeName ++ ": " ++
      error.message

end BindingError

inductive BindingFailure where
  | refused (error : BindingError)
  | unfit (error : UnfitValue)
  | tooManyDigits (count : Nat)
  | noConversion
  deriving Repr, DecidableEq, Inhabited

/-- Only a refused text is reported as an error of the field. -/
def CoercionFailure.toBindingFailure (field : Text) : CoercionFailure → BindingFailure
  | refused error => .refused (.coercion field error)
  | tooManyDigits count => .tooManyDigits count
  | noConversion => .noConversion

inductive Selection where
  | parameters
  | text (raw : Text)
  | nothing
  deriving Repr, DecidableEq, Inhabited

namespace Field

def captured (f : Field) (captures : Captures) : Text := (captures.get? f.variableName).getD []

def select (f : Field) (contents : Contents) : Selection :=
  if f.isParams then .parameters
  else if f.isScheme && !contents.scheme.isEmpty then .text contents.scheme
  else if !(f.captured contents.captures).isEmpty then .text (f.captured contents.captures)
  else
    match f.fallback with
    | some raw => .text raw
    | none => .nothing

def put (f : Field) (record : Record) (v : Value) (assign : Assignment := Record.assign) :
    Except BindingFailure Record :=
  match assign record f.name v with
  | .ok record' => .ok record'
  | .error (.refused error) => .error (.refused (.readOnly f.name record.typeName error))
  | .error (.unfit error) => .error (.unfit error)

/-- Convert before writing, so that a text that cannot be converted is never reported as a record
that cannot be written. -/
def write (f : Field) (contents : Contents) (record : Record)
    (assign : Assignment := Record.assign) : Except BindingFailure Record :=
  match f.select contents with
  | .nothing => .ok record
  | .parameters => f.put record (.ofQuery contents.query) assign
  | .text raw =>
    match f.coerce raw with
    | .ok v => f.put record v assign
    | .error failure => .error (failure.toBindingFailure f.name)

end Field

/-- Write the fields in order. The result is the record as far as it was written, and the failure
that ended the writing, if any. -/
def Contents.bind (contents : Contents) (fields : List Field) (record : Record)
    (assign : Assignment := Record.assign) : Record × Option BindingFailure :=
  match fields with
  | [] => (record, none)
  | f :: rest =>
    match f.write contents record assign with
    | .ok record' => contents.bind rest record' assign
    | .error failure => (record, some failure)

end DsnBinding
