import DsnBinding.Declaration
import DsnBinding.OrderedMap
import DsnBinding.Text.Shortened

/-!
Record types and records. A record of a declared type has exactly the attributes its type declares,
and a frozen one cannot be written. Values of other types can stand where a record is expected: a
plain object takes any attribute, and a bare value takes none. The names that a type reserves can be
read-only, or take only a type or a table. The records here take every value as it is: their types
have no converters, validators or hooks. Such rules are another way to assign.
-/
namespace DsnBinding

inductive RecordType where
  | declared (declaration : Declaration)
  /-- A class that declares no attributes. -/
  | plain (name : Text) (template : Option Datum)
  /-- The type of a bare value, which is the only record of it. -/
  | valueType (v : Value)
  /-- A bare value in place of a type. -/
  | value (v : Value)
  deriving Inhabited

namespace RecordType

def shown? : RecordType → Option String
  | declared d => some (d.kind.shownType d.name)
  | plain name _ => some (RecordKind.plain.shownType name)
  | valueType v => some ((RecordKind.value v.kind).shownType v.typeName)
  | value v => if v.isTooLong then none else some (String.ofList v.shown)

/-- The type of the records that there are: a bare value in place of a type is a record itself. -/
def ofRecords : RecordType → RecordType
  | value v => valueType v
  | type => type

def rawTemplate : RecordType → Datum
  | declared d => d.template.getD .null
  | plain _ template => template.getD .null
  | valueType _ | value _ => .null

end RecordType

structure Record where
  typeName : Text
  kind : RecordKind
  attributes : OrderedMap Text Value
  deriving DecidableEq, Inhabited

inductive AssignmentError where
  | frozen
  | noSuchAttribute (typeName name : Text)
  | shared (typeName name : Text)
  | computed (owner name : Text)
  /-- A rule of the type denies the access. -/
  | denied (message : String)
  deriving Repr, DecidableEq, Inhabited

/-- Messages have room for 100 bytes of the name of a type, and for 50 if what the type shares was to
be written. -/
def AssignmentError.message : AssignmentError → String
  | frozen => "can't set attribute"
  | noSuchAttribute typeName name =>
    "'" ++ String.ofList (Text.shortened 100 typeName) ++ "' object has no attribute '" ++
      String.ofList name ++ "'"
  | shared typeName name =>
    "'" ++ String.ofList (Text.shortened 50 typeName) ++ "' object attribute '" ++
      String.ofList name ++ "' is read-only"
  | computed owner name =>
    "attribute '" ++ String.ofList name ++ "' of '" ++ String.ofList (Text.shortened 100 owner) ++
      "' objects is not writable"
  | denied message => message

/-- A value that does not fit: a reserved name takes no value of its type, which is given by name, or a
rule of the type of the record raises an error that does not deny the access. -/
inductive UnfitValue where
  | notAType (typeName : Text)
  | notATable (typeName : Text)
  | raised (error : RaisedError)
  deriving Repr, DecidableEq, Inhabited

namespace UnfitValue

def kind : UnfitValue → String
  | notAType _ | notATable _ => "TypeError"
  | raised error => error.kind

def message : UnfitValue → String
  | notAType typeName =>
    String.ofList Reserved.typeName ++ " must be set to a class, not '" ++ String.ofList typeName ++
      "' object"
  | notATable typeName =>
    String.ofList Reserved.tableName ++ " must be set to a dictionary, not a '" ++
      String.ofList typeName ++ "'"
  | raised error => error.message

end UnfitValue

inductive AssignmentFailure where
  | refused (error : AssignmentError)
  | unfit (error : UnfitValue)
  deriving Repr, DecidableEq, Inhabited

def AssignmentFailure.message : AssignmentFailure → String
  | refused error => error.message
  | unfit error => error.message

namespace Record

def get? (r : Record) (name : Text) : Option Value := r.attributes.get? name

/-- Write an attribute without asking whether that is allowed. -/
def set (r : Record) (name : Text) (v : Value) : Record :=
  { r with attributes := r.attributes.insert name v }

/-- Write what a reserved name stands for. No value is a type, but a map is a table. -/
def assignReserved (r : Record) (name : Text) (v : Value) :
    Reserved → Except AssignmentFailure Record
  | .shared => .error (.refused (.shared r.typeName name))
  | .computed owner => .error (.refused (.computed owner name))
  | .type => .error (.unfit (.notAType v.typeName))
  | .table =>
    match v with
    | .map entries => .ok { r with attributes := .ofList entries }
    | _ => .error (.unfit (.notATable v.typeName))

def assignUndeclared (r : Record) (name : Text) (v : Value) : Except AssignmentFailure Record :=
  match r.kind.reserved? r.typeName name with
  | some reserved => r.assignReserved name v reserved
  | none =>
    match r.kind with
    | .plain => .ok (r.set name v)
    | .declared .. | .value _ => .error (.refused (.noSuchAttribute r.typeName name))

def write (r : Record) (name : Text) (v : Value) : Except AssignmentFailure Record :=
  match r.kind with
  | .declared .. =>
    if r.attributes.contains name then .ok (r.set name v) else r.assignUndeclared name v
  | .plain | .value _ => r.assignUndeclared name v

/-- Write attributes in order, also of a frozen record, up to the first that cannot be written. -/
def writeAll : List (Text × Value) → Record → Except AssignmentFailure Record
  | [], r => .ok r
  | (name, v) :: rest, r =>
    match r.write name v with
    | .error failure => .error failure
    | .ok r' => writeAll rest r'

def assign (r : Record) (name : Text) (v : Value) : Except AssignmentFailure Record :=
  match r.kind with
  | .declared true _ => .error (.refused .frozen)
  | .declared false _ | .plain | .value _ => r.write name v

def state? (r : Record) : Option (OrderedMap Text Value) :=
  match r.kind with
  | .declared .. => some r.attributes
  | .plain | .value _ => none

end Record

/-- A way to write an attribute. A type with rules of its own can change a value, write more than one
attribute, or fail. -/
abbrev Assignment := Record → Text → Value → Except AssignmentFailure Record

def Value.record (v : Value) : Record := ⟨v.typeName, .value v.kind, .ofList v.attributes⟩

def RecordType.fresh : RecordType → Record
  | declared d =>
    ⟨d.name, d.kind, .ofList (d.attributes.map fun a => (a.name, a.initial))⟩
  | plain name _ => ⟨name, .plain, .empty⟩
  | valueType v | value v => v.record

inductive CreationError where
  /-- A bare value, given by the name of its type, is no type. -/
  | notCallable (typeName : Text)
  | assignment (failure : AssignmentFailure)
  deriving Repr, DecidableEq, Inhabited

def CreationError.message : CreationError → String
  | notCallable typeName => "'" ++ String.ofList typeName ++ "' object is not callable"
  | assignment failure => failure.message

/-- Why a new record cannot be given an attribute: it does not keep it under that name, or the name is
reserved even where it is declared. -/
def Declaration.obstacle? (d : Declaration) (a : Attribute) : Option AssignmentFailure :=
  let name := d.givenName a.name
  if !d.keeps name then some (.refused (.noSuchAttribute d.name name))
  else if name = Reserved.moduleName then some (.refused (.shared d.name name))
  else if name = Reserved.referencesName then some (.refused (.computed d.name name))
  else if name = Reserved.tableName then
    match a.initial with
    | .map _ => none
    | v => some (.unfit (.notATable v.typeName))
  else none

def RecordType.create : RecordType → Except CreationError Record
  | declared d =>
    match d.attributes.findSome? d.obstacle? with
    | some failure => .error (.assignment failure)
    | none => .ok (declared d).fresh
  | value v => .error (.notCallable v.typeName)
  | type => .ok type.fresh

end DsnBinding
