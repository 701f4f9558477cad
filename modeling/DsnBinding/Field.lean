import DsnBinding.Text.UpperCase
import DsnBinding.Value

/-!
A field is an attribute of a record that takes part in a DSN: it names the variable of the template
that feeds it, the kind of value it holds, the text to use when the DSN provides none, and the role
it may play beside receiving a variable.
-/
namespace DsnBinding

inductive FieldKind where
  | string
  | integer
  | bool
  | map
  /-- A field without conversion from text. -/
  | untyped
  deriving Repr, DecidableEq, Inhabited

namespace FieldKind

def label : FieldKind → Text
  | string => "string".toList
  | integer => "integer".toList
  | bool => "bool".toList
  | map => "map".toList
  | untyped => []

def typed : List FieldKind := [string, integer, bool, map]

def ofLabel? (label : Text) : Option FieldKind := typed.find? (·.label == label)

end FieldKind

inductive Role where
  | scheme
  | params
  /-- A role that nothing refers to. -/
  | other (label : Text)
  deriving Repr, DecidableEq, Inhabited

namespace Role

def label : Role → Text
  | scheme => "scheme".toList
  | params => "params".toList
  | other label => label

def ofLabel (label : Text) : Role :=
  if label = scheme.label then scheme else if label = params.label then params else other label

end Role

structure Field where
  name : Text
  variableName : Text
  kind : FieldKind
  typeName : Text
  fallback : Option Text
  role : Option Role
  deriving Repr, DecidableEq, Inhabited

namespace Field

def capitalized : Text → Text
  | [] => []
  | c :: t => Text.upperCase c ++ t

/-- The words of a name between underscores, capitalised and put together. -/
def pascalCase (name : Text) : Text := (name.splitOn '_').flatMap capitalized

/-- A field whose variable is named after it unless a name is given. -/
def create (kind : FieldKind) (name variableName : Text) (fallback : Option Text)
    (role : Option Role) : Field where
  name
  variableName := if variableName.isEmpty then pascalCase name else variableName
  kind
  typeName := kind.label
  fallback
  role

def isScheme (f : Field) : Bool := f.role == some .scheme

def isParams (f : Field) : Bool := f.role == some .params

def quotedOption : Option Text → String
  | none => "None"
  | some t => Text.quoted t

/-- A field without conversion is described by all its parts, the others by kind and name. -/
def description (f : Field) : String :=
  match f.kind with
  | .string => "StrF(" ++ String.ofList f.name ++ ")"
  | .integer => "IntF(" ++ String.ofList f.name ++ ")"
  | .bool => "BoolF(" ++ String.ofList f.name ++ ")"
  | .map => "MapF(" ++ String.ofList f.name ++ ")"
  | .untyped =>
    "DsnField(name=" ++ Text.quoted f.name ++ ", var_name=" ++ Text.quoted f.variableName ++
      ", type_name=" ++ Text.quoted f.typeName ++ ", default=" ++ quotedOption f.fallback ++
      ", role=" ++ quotedOption (f.role.map Role.label) ++ ")"

end Field

end DsnBinding
