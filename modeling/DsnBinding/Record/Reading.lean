import DsnBinding.Declaration.Inventory
import DsnBinding.Record
import DsnBinding.Record.Documentation

/-!
Reading an attribute of a record by its name. A name that the record holds no value under can still
be reserved, and then something is read that is mostly no value: an operation of the type, its
documentation or the type itself. An operation is shown without its place in memory.
-/
namespace DsnBinding

inductive Reading where
  | value (v : Value)
  | type (kind : RecordKind) (name : Text)
  /-- Something that the type provides: the name of its own type, how it is shown, if it can be, and
  whether it counts as yes. -/
  | provided (typeName : Text) (shown : Option Text) (isTruthy : Bool)
  deriving DecidableEq, Inhabited

namespace Reserved

def commonOperators : List Text :=
  Text.words
    ["__delattr__ __eq__ __ge__ __getattribute__ __gt__ __hash__ __init__ __le__ __lt__ __ne__",
      "__repr__ __setattr__ __str__"]

/-- The names of numbers that are written like operations and are functions. -/
def numberFunctions : List Text :=
  Text.words ["__ceil__ __floor__ __getnewargs__ __round__ __trunc__"]

def operators : ValueKind → List Text
  | .null => nullNames
  | .number =>
    numberNames.filter fun name => name.head? == some '_' && !numberFunctions.contains name
  | .text =>
    Text.words ["__add__ __contains__ __getitem__ __iter__ __len__ __mod__ __mul__ __rmod__ __rmul__"]
  | .map => Text.words ["__delitem__ __ior__ __iter__ __len__ __or__ __ror__ __setitem__"]

def holds (kind : RecordKind) (name : Text) : Bool :=
  match kind with
  | .declared frozen _ => (referencesName :: commonNames ++ declaredNames frozen).contains name
  | .plain => ([referencesName, tableName, moduleName] ++ commonNames).contains name
  | .value kind => (sharedNames kind).contains name

def emptyIn : RecordKind → List Text
  | .declared frozen _ => referencesName :: emptyNames frozen
  | .plain => [referencesName, documentationName]
  | .value .null => [documentationName]
  | .value .map => Text.words ["__hash__"]
  | .value .number | .value .text => []

def isOperation (kind : RecordKind) (name : Text) : Bool :=
  match kind with
  | .declared .. | .plain => commonOperators.contains name
  | .value kind => (commonOperators ++ operators kind).contains name

end Reserved

namespace Record

def shown (r : Record) : Text :=
  r.typeName ++ '(' :: Text.joined [',', ' ']
    (r.attributes.entries.map fun (name, v) => name ++ '=' :: v.shown) ++ [')']

/-- Whether a record holds a number with too many digits, so that it cannot be shown. -/
def isTooLong (r : Record) : Bool := (Value.map r.attributes.entries).isTooLong

/-- What a declared type provides under a name of its own. A method is shown with its record. -/
def readDeclared? (r : Record) (frozen : Bool) (name : Text) : Option Reading :=
  if name = Reserved.orderName then
    some (.provided "tuple".toList (some (Text.quotedTuple r.attributes.keys))
      !r.attributes.keys.isEmpty)
  else if name = Reserved.propertiesName then
    some (.provided "ClassProps".toList (some (Reserved.propertiesShown frozen).toList) true)
  else if name = Reserved.moduleName then some (.value (.text Reserved.module))
  else if name = Reserved.ownWritingName then some (.value (if frozen then .null else .bool false))
  else
    (Reserved.method? frozen name).map fun method =>
      .provided "function".toList
        (if r.isTooLong then none else some (method.shown r.typeName r.shown)) true

def readShared (r : Record) (name : Text) : Reading :=
  if name = Reserved.documentationName then
    .value (.text (Reserved.documentation r.typeName))
  else
    let type : Text :=
      if Reserved.isOperation r.kind name then "method-wrapper".toList
      else "builtin_function_or_method".toList
    .provided type (some ('<' :: type ++ ' ' :: name ++ ['>'])) true

/-- What stands under a name that the record holds no value under, null if nothing does. -/
def readReserved (r : Record) (name : Text) : Reading :=
  if name = Reserved.typeName then .type r.kind r.typeName
  else if !Reserved.holds r.kind name || (Reserved.emptyIn r.kind).contains name then .value .null
  else
    match r.kind with
    | .declared frozen _ => (r.readDeclared? frozen name).getD (r.readShared name)
    | .plain =>
      if name = Reserved.tableName then .value (.map r.attributes.entries)
      else if name = Reserved.moduleName then .value (.text Reserved.module)
      else r.readShared name
    | .value _ => r.readShared name

/-- What is read under a name; a name that the record lacks counts as null. -/
def read (r : Record) (name : Text) : Reading :=
  match r.get? name with
  | some v => .value v
  | none => r.readReserved name

end Record

end DsnBinding
