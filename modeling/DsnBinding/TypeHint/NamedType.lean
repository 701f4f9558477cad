import DsnBinding.Field

/-!
The types that type hints name. What a field can have is told by a few classes: a type is one of them,
or a generic type made from one, or neither.
-/
namespace DsnBinding

/-- How a type hint is shown, and what a bar makes of it. -/
inductive TypeForm where
  | plainClass
  | alias
  /-- A generic construct: a union with a bar around it is shown as a construct too. -/
  | construct
  /-- A bare reference. -/
  | text
  /-- The none value, which stands for its type. -/
  | none
  deriving Repr, DecidableEq, Inhabited

/-- The classes that types are compared with. -/
inductive KnownClass where
  | bool
  | integer
  | string
  | noneType
  | dict
  | mapping
  | mutableMapping
  deriving Repr, DecidableEq, Inhabited

inductive TypeIdentity where
  | known (c : KnownClass)
  /-- A generic type made from a class, with or without its arguments. -/
  | madeFrom (origin : KnownClass)
  | other
  deriving Repr, DecidableEq, Inhabited

structure NamedType where
  spelling : String
  /-- How the type is shown as a member of a union. -/
  shown : String
  form : TypeForm
  identity : TypeIdentity
  /-- How the message about a bar that does not apply calls the type. -/
  operand : String := "type"
  deriving Repr, DecidableEq, Inhabited

namespace NamedType

def isClass (type : NamedType) (c : KnownClass) : Bool := type.identity == .known c

def origin? (type : NamedType) : Option KnownClass :=
  match type.identity with
  | .madeFrom origin => some origin
  | .known _ | .other => none

def mapOrigins : List KnownClass := [.dict, .mapping, .mutableMapping]

/-- The kind of field that can have the type. -/
def kind? (type : NamedType) : Option FieldKind :=
  if type.isClass .bool then some .bool
  else if type.isClass .integer then some .integer
  else if type.isClass .string then some .string
  else if mapOrigins.any type.isClass || mapOrigins.any (type.origin? == some ·) then some .map
  else none

def ofClass (name : String) (identity : TypeIdentity) : NamedType :=
  { spelling := name, shown := name, form := .plainClass, identity }

def unsupported (name : String) : NamedType := ofClass name .other

/-- An object that is no class, shown as it is. -/
def object (name shown : String) : NamedType :=
  { spelling := name, shown, form := .alias, identity := .other }

/-- A construct, to which a bar always applies. -/
def construct (name : String) (identity : TypeIdentity) : NamedType :=
  { spelling := name, shown := "typing." ++ name, form := .construct, identity }

def collection (name : String) (c : KnownClass) : NamedType :=
  ⟨name, "collections." ++ name, .plainClass, .known c, "ABCMeta"⟩

def string : NamedType := ofClass "str" (.known .string)

def integer : NamedType := ofClass "int" (.known .integer)

def bool : NamedType := ofClass "bool" (.known .bool)

def float : NamedType := unsupported "float"

def noneType : NamedType := { ofClass "None" (.known .noneType) with shown := "NoneType" }

def dict : NamedType := ofClass "dict" (.known .dict)

/-- The types that hints are made of. -/
def all : List NamedType :=
  [string, integer, bool, float, noneType, dict, unsupported "bytes", unsupported "object",
    unsupported "list",
    construct "Dict" (.madeFrom .dict),
    construct "Dict[str, str]" (.madeFrom .dict),
    ⟨"dict[str, int]", "dict[str, int]", .alias, .madeFrom .dict, "types.GenericAlias"⟩,
    construct "Mapping" (.madeFrom .mapping),
    construct "Mapping[str, str]" (.madeFrom .mapping),
    construct "MutableMapping[str, str]" (.madeFrom .mutableMapping),
    collection "abc.Mapping" .mapping,
    collection "abc.MutableMapping" .mutableMapping,
    { unsupported "OrderedDict" with shown := "collections.OrderedDict" },
    ⟨"Any", "typing.Any", .alias, .other, "_AnyMeta"⟩,
    construct "List[str]" .other,
    construct "Annotated[int, 'x']" .other]

def ofSpelling? (spelling : String) : Option NamedType := all.find? (·.spelling == spelling)

end NamedType

end DsnBinding
