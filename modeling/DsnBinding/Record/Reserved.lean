import DsnBinding.Value

/-!
Reserved names. Every type holds some names without declaring them, the name of the template among
them. What stands under such a name belongs to the type, so that a record cannot write it, or it takes
only a type or a table. Which names are reserved depends on what the record is.
-/
namespace DsnBinding

/-- What a bare value is. Truth values are numbers. -/
inductive ValueKind where
  | null
  | number
  | text
  | map
  deriving Repr, DecidableEq, Inhabited

def Value.kind : Value → ValueKind
  | null => .null
  | bool _ | int _ => .number
  | text _ => .text
  | map _ => .map

inductive RecordKind where
  /-- It has the attributes that its type declares, and its type may hold a template. -/
  | declared (frozen hasTemplate : Bool)
  | plain
  | value (kind : ValueKind)
  deriving Repr, DecidableEq, Inhabited

inductive Reserved where
  /-- Something that all records of the type share. -/
  | shared
  /-- Something that a type, the owner, computes for each record. -/
  | computed (owner : Text)
  | type
  | table
  deriving Repr, DecidableEq, Inhabited

namespace Reserved

def typeName : Text := "__class__".toList

def tableName : Text := "__dict__".toList

def referencesName : Text := "__weakref__".toList

def templateName : Text := "__dsn_template__".toList

def moduleName : Text := "__module__".toList

/-- Under this name a type holds the names of its attributes in order. -/
def orderName : Text := "__match_args__".toList

/-- Under this name a type holds all names that its records keep. -/
def keptNamesName : Text := "__slots__".toList

/-- Under this name a type says whether it defines its own way to write attributes. -/
def ownWritingName : Text := "__attrs_own_setattr__".toList

/-- Under this name a type holds its properties. -/
def propertiesName : Text := "__attrs_props__".toList

def module : Text := "records".toList

def commonNames : List Text :=
  Text.words
    ["__delattr__ __dir__ __doc__ __eq__ __format__ __ge__ __getattribute__ __getstate__ __gt__",
      "__hash__ __init__ __init_subclass__ __le__ __lt__ __ne__ __new__ __reduce__ __reduce_ex__",
      "__repr__ __setattr__ __sizeof__ __str__ __subclasshook__"]

/-- The names that a declaration adds. A frozen type has no say in how attributes are written. -/
def declaredNames (frozen : Bool) : List Text :=
  [moduleName, orderName, keptNamesName, propertiesName] ++
    (if frozen then [] else [ownWritingName]) ++
    Text.words ["__annotations__ __attrs_attrs__ __setstate__"]

def emptyNames (frozen : Bool) : List Text :=
  Text.words (if frozen then ["__doc__"] else ["__doc__ __hash__"])

def nullNames : List Text :=
  Text.words
    ["__bool__"]

def numberNames : List Text :=
  Text.words
    ["__abs__ __add__ __and__ __bool__ __ceil__ __divmod__ __float__ __floor__ __floordiv__",
      "__getnewargs__ __index__ __int__ __invert__ __lshift__ __mod__ __mul__ __neg__ __or__",
      "__pos__ __pow__ __radd__ __rand__ __rdivmod__ __rfloordiv__ __rlshift__ __rmod__ __rmul__",
      "__ror__ __round__ __rpow__ __rrshift__ __rshift__ __rsub__ __rtruediv__ __rxor__ __sub__",
      "__truediv__ __trunc__ __xor__ as_integer_ratio bit_count bit_length conjugate from_bytes",
      "to_bytes"]

def textNames : List Text :=
  Text.words
    ["__add__ __contains__ __getitem__ __getnewargs__ __iter__ __len__ __mod__ __mul__ __rmod__",
      "__rmul__ capitalize casefold center count encode endswith expandtabs find format format_map",
      "index isalnum isalpha isascii isdecimal isdigit isidentifier islower isnumeric isprintable",
      "isspace istitle isupper join ljust lower lstrip maketrans partition removeprefix",
      "removesuffix replace rfind rindex rjust rpartition rsplit rstrip split splitlines startswith",
      "strip swapcase title translate upper zfill"]

def mapNames : List Text :=
  Text.words
    ["__class_getitem__ __contains__ __delitem__ __getitem__ __ior__ __iter__ __len__ __or__",
      "__reversed__ __ror__ __setitem__ clear copy fromkeys get items keys pop popitem setdefault",
      "update values"]

/-- The parts of a number as a complex number and as a fraction. -/
def computedNames : List Text := Text.words ["real imag numerator denominator"]

def sharedNames : ValueKind → List Text
  | .null => commonNames ++ nullNames
  | .number => commonNames ++ numberNames
  | .text => commonNames ++ textNames
  | .map => commonNames ++ mapNames

/-- What a name stands for in a bare value. Every number, also a truth value, is computed as an
integer. -/
def ofValueKind? (kind : ValueKind) (name : Text) : Option Reserved :=
  if name = typeName then some .type
  else if kind == .number && computedNames.contains name then
    some (.computed (Value.typeName (.int 0)))
  else if (sharedNames kind).contains name then some .shared
  else none

end Reserved

/-- How the type of a record is shown, given its name. The types of bare values belong to no
module. -/
def RecordKind.shownType (kind : RecordKind) (name : Text) : String :=
  let path := match kind with
    | declared .. | plain => Reserved.module ++ '.' :: name
    | value _ => name
  "<class '" ++ String.ofList path ++ "'>"

/-- What a name that is not declared stands for in a record of the kind. In a plain object an
attribute hides what its type shares. -/
def RecordKind.reserved? (kind : RecordKind) (recordTypeName name : Text) : Option Reserved :=
  match kind with
  | declared frozen hasTemplate =>
    if name = Reserved.typeName then some .type
    else if name = Reserved.referencesName then some (.computed recordTypeName)
    else if (Reserved.commonNames ++ Reserved.declaredNames frozen).contains name ||
        (hasTemplate && name == Reserved.templateName) then some .shared
    else none
  | plain =>
    if name = Reserved.typeName then some .type
    else if name = Reserved.tableName then some .table
    else if name = Reserved.referencesName then some (.computed recordTypeName)
    else none
  | value kind => Reserved.ofValueKind? kind name

/-- What can be read from a bare value: the parts of a number as a complex number and as a
fraction. -/
def Value.attributes : Value → List (Text × Value)
  | bool b => ofNumber (if b then 1 else 0)
  | int i => ofNumber i
  | null | text _ | map _ => []
where
  ofNumber (i : Int) : List (Text × Value) :=
    Reserved.computedNames.zip [.int i, .int 0, .int i, .int 1]

end DsnBinding
