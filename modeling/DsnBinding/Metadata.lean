import DsnBinding.Datum
import DsnBinding.Field
import DsnBinding.Template.Token

/-!
Metadata of an attribute: which variable feeds it, its default, its role, its kind, and whether it is
left out. Reading collects every violation, those of the declared keys first and then the unknown
keys; null stands for a key that is not given.
-/
namespace DsnBinding

structure Metadata where
  variableName : Option Text
  fallback : Option Text
  role : Option Role
  kind : Option FieldKind
  skip : Bool
  deriving Repr, DecidableEq, Inhabited

namespace Metadata

inductive Flaw where
  | notText
  | badName
  | badLabel
  | notBool
  | unknownKey
  | notAnObject
  deriving Repr, DecidableEq, Inhabited

def Flaw.code : Flaw → String
  | notText => "string_type"
  | badName => "value_error"
  | badLabel => "literal_error"
  | notBool => "bool_type"
  | unknownKey => "extra_forbidden"
  | notAnObject => "model_type"

/-- A flaw at a key; metadata that is no object is flawed at no key. -/
structure Violation where
  key : Option Text
  flaw : Flaw
  deriving Repr, DecidableEq, Inhabited

def empty : Metadata := ⟨none, none, none, none, false⟩

def readName : Datum → Except Flaw (Option Text)
  | .null => .ok none
  | .text t => if Template.isIdentifier t then .ok (some t) else .error .badName
  | _ => .error .notText

def readText : Datum → Except Flaw (Option Text)
  | .null => .ok none
  | .text t => .ok (some t)
  | _ => .error .notText

def readRole : Datum → Except Flaw (Option Role)
  | .null => .ok none
  | .text t =>
    match Role.ofLabel t with
    | .other _ => .error .badLabel
    | role => .ok (some role)
  | _ => .error .badLabel

def readKind : Datum → Except Flaw (Option FieldKind)
  | .null => .ok none
  | .text t =>
    match FieldKind.ofLabel? t with
    | some kind => .ok (some kind)
    | none => .error .badLabel
  | _ => .error .badLabel

def readSkip : Datum → Except Flaw Bool
  | .null => .ok false
  | .bool b => .ok b
  | _ => .error .notBool

def variableKey : Text := "var".toList

def defaultKey : Text := "default".toList

def roleKey : Text := "role".toList

def kindKey : Text := "type_name".toList

def skipKey : Text := "skip".toList

def declaredKeys : List Text := [variableKey, defaultKey, roleKey, kindKey, skipKey]

def member (members : List (Text × Datum)) (key : Text) : Datum :=
  ((members.find? (·.1 == key)).map (·.2)).getD .null

def violation {α : Type} (key : Text) : Except Flaw α → List Violation
  | .ok _ => []
  | .error flaw => [⟨some key, flaw⟩]

def unknownKeys (members : List (Text × Datum)) : List Text :=
  (members.map (·.1)).filter (!declaredKeys.contains ·)

def ofMembers (members : List (Text × Datum)) : Except (List Violation) Metadata :=
  let variableName := readName (member members variableKey)
  let fallback := readText (member members defaultKey)
  let role := readRole (member members roleKey)
  let kind := readKind (member members kindKey)
  let skip := readSkip (member members skipKey)
  let unknown := unknownKeys members
  match variableName, fallback, role, kind, skip, unknown with
  | .ok variableName, .ok fallback, .ok role, .ok kind, .ok skip, [] =>
    .ok ⟨variableName, fallback, role, kind, skip⟩
  | _, _, _, _, _, _ =>
    .error (violation variableKey variableName ++ violation defaultKey fallback ++
      violation roleKey role ++ violation kindKey kind ++ violation skipKey skip ++
      unknown.map (⟨some ·, .unknownKey⟩))

/-- Read metadata; what counts as no has no keys. -/
def read (data : Datum) : Except (List Violation) Metadata :=
  if data.isTruthy then
    match data with
    | .object members => ofMembers members
    | _ => .error [⟨none, .notAnObject⟩]
  else .ok empty

end Metadata

end DsnBinding
