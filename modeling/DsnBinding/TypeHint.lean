import DsnBinding.Text.Quoted
import DsnBinding.Text.Shortened
import DsnBinding.TypeHint.NamedType

/-!
Type hints of attributes and the kinds of field they stand for. A type hint names a type, joins
several in a union, or refers to one by a text that is evaluated where the attribute is declared.
Evaluating is left to the surroundings: a reference comes with what it means, which is a type, again
perhaps a union, or the error that evaluating ends with. A construct around texts counts as one text.
Unions are flattened, equal members count once, and a union of one member is that member; this holds
before the references are resolved and once more after it. A union stands for a kind if all but the
none type is a single member that does.
-/
namespace DsnBinding

/-- An exception, by its class and its message. -/
structure RaisedError where
  kind : String
  message : String
  deriving Repr, DecidableEq, Inhabited

/-- Why a reference cannot be evaluated, other than that a name is missing. -/
inductive UnusableReference where
  | notAnExpression (text : Text)
  /-- The reference means a tuple of names, which is no type. -/
  | tuple (names : List Text)
  | raised (error : RaisedError)
  deriving Repr, DecidableEq, Inhabited

namespace UnusableReference

def kind : UnusableReference → String
  | notAnExpression _ => "SyntaxError"
  | tuple _ => "TypeError"
  | raised error => error.kind

/-- The message has room for 100 characters of a tuple. -/
def message : UnusableReference → String
  | notAnExpression text => "Forward reference must be an expression -- got " ++ Text.quoted text
  | tuple names =>
    "Forward references must evaluate to types. Got " ++
      String.ofList ((Text.quotedTuple names).take 100) ++ "."
  | raised error => error.message

end UnusableReference

/-- Why a reference means no type. Only a missing name counts as a fault of the declaration. -/
inductive ReferenceError where
  | undefined (message : String)
  | unusable (error : UnusableReference)
  deriving Repr, DecidableEq, Inhabited

/-- The error for a missing name, with room for 200 bytes of it. -/
def ReferenceError.ofName (name : Text) : ReferenceError :=
  .undefined ("name '" ++ String.ofList (Text.shortened 200 name) ++ "' is not defined")

/-- What a type hint comes down to. A union has at least two distinct members. -/
inductive ResolvedType where
  | absent
  | single (type : NamedType)
  | union (form : TypeForm) (members : List NamedType)
  deriving Repr, DecidableEq, Inhabited

namespace ResolvedType

def form : ResolvedType → TypeForm
  | absent => .plainClass
  | single type => type.form
  | union form _ => form

def members : ResolvedType → List NamedType
  | absent => []
  | single type => [type]
  | union _ members => members

def unite (form : TypeForm) (members : List NamedType) : ResolvedType :=
  match members.eraseDups with
  | [] => absent
  | [type] => single type
  | several => union form several

/-- The kind of field that a type stands for, if it is supported. -/
def kind? : ResolvedType → Option FieldKind
  | absent => none
  | single type => type.kind?
  | union _ members =>
    match members.filter (!·.isClass .noneType) with
    | [type] => type.kind?
    | _ => none

def shownInBars (type : NamedType) : String :=
  if type.isClass .noneType then "None" else type.shown

def shown : ResolvedType → String
  | absent => "None"
  | single type =>
    if type.form = .plainClass then "<class '" ++ type.shown ++ "'>" else type.shown
  | union .construct [a, b] =>
    if a.isClass .noneType then "typing.Optional[" ++ b.shown ++ "]"
    else if b.isClass .noneType then "typing.Optional[" ++ a.shown ++ "]"
    else "typing.Union[" ++ a.shown ++ ", " ++ b.shown ++ "]"
  | union .construct members =>
    "typing.Union[" ++ ", ".intercalate (members.map NamedType.shown) ++ "]"
  | union _ members => " | ".intercalate (members.map shownInBars)

end ResolvedType

/-- What evaluating a reference ends with. -/
inductive Meaning where
  | type (type : ResolvedType)
  | error (error : ReferenceError)
  deriving Repr, DecidableEq, Inhabited

/-- A text in place of a type. -/
structure Reference where
  text : Text
  meaning : Meaning
  deriving Repr, DecidableEq, Inhabited

def Reference.resolve (r : Reference) : Except ReferenceError ResolvedType :=
  match r.meaning with
  | .type type => .ok type
  | .error error => .error error

inductive HintMember where
  | named (type : NamedType)
  | reference (r : Reference)
  deriving Repr, DecidableEq, Inhabited

namespace HintMember

def isReference : HintMember → Bool
  | named _ => false
  | reference _ => true

/-- How a union is written that comes down to the member. -/
def form : HintMember → TypeForm
  | named type => type.form
  | reference _ => .construct

def resolve : HintMember → Except ReferenceError ResolvedType
  | named type => .ok (.single type)
  | reference r => r.resolve

def resolveAll : List HintMember → Except ReferenceError (List ResolvedType)
  | [] => .ok []
  | member :: rest =>
    match member.resolve with
    | .error error => .error error
    | .ok type => (resolveAll rest).map (type :: ·)

end HintMember

/-- A type hint by its distinct members, none if there is no hint, and how it is written. -/
structure TypeHint where
  form : TypeForm
  members : List HintMember
  deriving Repr, DecidableEq, Inhabited

inductive UnionError where
  | noMembers
  | unusable (error : UnusableReference)
  /-- A bar does not apply to the operands. -/
  | noBar (left right : String)
  deriving Repr, DecidableEq, Inhabited

def UnionError.message : UnionError → String
  | noMembers => "Cannot take a Union of no types."
  | unusable error => error.message
  | noBar left right => "unsupported operand type(s) for |: '" ++ left ++ "' and '" ++ right ++ "'"

namespace TypeHint

def absent : TypeHint := ⟨.plainClass, []⟩

def named (type : NamedType) : TypeHint :=
  ⟨if type.isClass .noneType then .none else type.form, [.named type]⟩

def reference (r : Reference) : TypeHint := ⟨.text, [.reference r]⟩

def unite (form : TypeForm) (members : List HintMember) : TypeHint :=
  match members.eraseDups with
  | [member] => ⟨member.form, [member]⟩
  | several => ⟨form, several⟩

/-- The first of the members, in a construct, that is no expression. -/
def unread? (members : List HintMember) : Option Text :=
  members.findSome? fun
    | .named _ => none
    | .reference r =>
      if r.meaning = .error (.unusable (.notAnExpression r.text)) then some r.text else none

def construct (members : List HintMember) : Except UnionError TypeHint :=
  match unread? members with
  | some text => .error (.unusable (.notAnExpression text))
  | none => .ok (unite .construct members)

def union (parts : List TypeHint) : Except UnionError TypeHint :=
  if parts.isEmpty then .error .noMembers else construct (parts.flatMap members)

/-- How the message about a bar that does not apply calls the hint. -/
def operand (hint : TypeHint) : String :=
  match hint.form, hint.members with
  | .text, _ => "str"
  | .none, _ => "NoneType"
  | _, [.named type] => type.operand
  | _, _ => "types.UnionType"

/-- Whether there is a bar between two hints neither of which is a construct: not for a bare
reference, nor between two none values. -/
def allowsBar (a b : TypeHint) : Bool :=
  a.form ≠ .text && b.form ≠ .text && (a.form ≠ .none || b.form ≠ .none)

/-- A union of two written with a bar is a construct if one of them is. -/
def bar (a b : TypeHint) : Except UnionError TypeHint :=
  if a.form = .construct ∨ b.form = .construct then construct (a.members ++ b.members)
  else if a.allowsBar b then .ok (unite .alias (a.members ++ b.members))
  else .error (.noBar a.operand b.operand)

def bars (first : TypeHint) : List TypeHint → Except UnionError TypeHint
  | [] => .ok first
  | next :: rest =>
    match first.bar next with
    | .error error => .error error
    | .ok hint => hint.bars rest

/-- How a hint is written once its members are resolved: a single one stays as it is. -/
def resolvedForm (hint : TypeHint) : List ResolvedType → TypeForm
  | [type] => type.form
  | _ => hint.form

/-- Resolve the references of a type hint, up to the first that means no type. -/
def resolve (hint : TypeHint) : Except ReferenceError ResolvedType :=
  (HintMember.resolveAll hint.members).map fun types =>
    .unite (hint.resolvedForm types) (types.flatMap ResolvedType.members)

/-- The kind that a type hint stands for as it is written: a reference stands for nothing until it
is resolved. -/
def kind? (hint : TypeHint) : Option FieldKind :=
  if hint.members.any HintMember.isReference then none
  else
    match hint.resolve with
    | .ok type => type.kind?
    | .error _ => none

end TypeHint

end DsnBinding
