import DsnBinding.Field
import DsnBinding.Field.Numeral
import DsnBinding.Text.Shortened

/-!
Conversion between the text in a DSN and the value of a field, in both directions. Text of the wrong
form is refused with an error that names the variable of the field; an integer with too many digits,
in either direction, and a field without conversion fail in ways of their own.
-/
namespace DsnBinding

/-- A text that has not the form of the kind of its field. -/
structure CoercionError where
  kind : FieldKind
  variableName : Text
  text : Text
  typeName : Text
  deriving Repr, DecidableEq, Inhabited

namespace CoercionError

def code (e : CoercionError) : String :=
  match e.kind with
  | .integer => "invalid_int_value"
  | .bool => "invalid_bool_value"
  | .map => "invalid_map_value"
  | .string | .untyped => "coercion_failed"

def message (e : CoercionError) : String :=
  "Cannot convert " ++ Text.quoted e.text ++ " to " ++ String.ofList e.typeName ++ " for field " ++
    String.ofList e.variableName

end CoercionError

inductive CoercionFailure where
  | refused (error : CoercionError)
  /-- A numeral that is well formed but too long. -/
  | tooManyDigits (count : Nat)
  | noConversion
  deriving Repr, DecidableEq, Inhabited

namespace CoercionFailure

def message : CoercionFailure → String
  | refused error => error.message
  | tooManyDigits count =>
    Numeral.limitMessage (": value has " ++ toString count ++ " digits")
  | noConversion => ""

end CoercionFailure

/-- Something that cannot be written as a map. -/
inductive NotAMap where
  | object (typeName : Text)
  /-- A type other than that of the maps. -/
  | type (name : Text)
  | mapType
  deriving Repr, DecidableEq, Inhabited

/-- The message about a type has room for 50 bytes of its name. -/
def NotAMap.message : NotAMap → String
  | object typeName => "'" ++ String.ofList typeName ++ "' object has no attribute 'items'"
  | type name =>
    "type object '" ++ String.ofList (Text.shortened 50 name) ++ "' has no attribute 'items'"
  | mapType => "unbound method dict.items() needs an argument"

inductive WritingFailure where
  | notAMap (error : NotAMap)
  | tooManyDigits
  deriving Repr, DecidableEq, Inhabited

def WritingFailure.message : WritingFailure → String
  | notAMap error => error.message
  | tooManyDigits => Numeral.limitMessage ""

namespace Field

def refuse (f : Field) (raw : Text) : CoercionFailure :=
  .refused ⟨f.kind, f.variableName, raw, f.typeName⟩

/-- Letter case does not matter. -/
def readBool? (raw : Text) : Option Bool :=
  match raw.map Char.toLower with
  | ['t', 'r', 'u', 'e'] => some true
  | ['f', 'a', 'l', 's', 'e'] => some false
  | _ => none

/-- Convert text to the kind of a field. Only the empty text stands for the empty map. -/
def coerce (f : Field) (raw : Text) : Except CoercionFailure Value :=
  match f.kind with
  | .string => .ok (.text raw)
  | .integer =>
    match Numeral.read? raw with
    | none => .error (f.refuse raw)
    | some n =>
      if n.digits.length ≤ Numeral.digitLimit then .ok (.int n.value)
      else .error (.tooManyDigits n.digits.length)
  | .bool =>
    match readBool? raw with
    | none => .error (f.refuse raw)
    | some b => .ok (.bool b)
  | .map =>
    let query := Query.parse raw
    if !raw.isEmpty && query.entries.isEmpty then .error (f.refuse raw)
    else .ok (.ofQuery query)
  | .untyped => .error .noConversion

/-- The text of a map, whose values are displayed whatever they are. -/
def mapText : Value → Except WritingFailure Text
  | .map entries =>
    if (Value.map entries).isTooLong then .error .tooManyDigits
    else .ok (Query.renderPairs (entries.map fun (k, v) => (k, v.display)))
  | v => .error (.notAMap (.object v.typeName))

def toText (f : Field) (v : Value) : Except WritingFailure Text :=
  match f.kind, v with
  | .map, v => if v.isTruthy then mapText v else .ok []
  | _, .null => .ok []
  | .bool, v => .ok (if v.isTruthy then "true".toList else "false".toList)
  | _, v => if v.isTooLong then .error .tooManyDigits else .ok v.display

end Field

end DsnBinding
