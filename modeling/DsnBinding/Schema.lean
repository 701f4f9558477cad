import DsnBinding.Pattern
import DsnBinding.Schema.Error

/-!
The schema of a record type: its compiled template and a field for each attribute that takes part in
a DSN. A schema is built in two steps, so that what a template contributes can be shared: the type is
read as far as its template, and then the fields are read and held against the compiled pattern.
-/
namespace DsnBinding

structure Schema where
  recordName : Text
  template : Text
  pattern : Pattern
  fields : List Field
  deriving DecidableEq, Inhabited

structure TypedAttribute where
  name : Text
  type : ResolvedType
  /-- What is attached as metadata, null if nothing is. -/
  metadata : Datum
  deriving Inhabited

/-- A record type that has a template and no unresolved hint. -/
structure Blueprint where
  recordName : Text
  template : Text
  attributes : List TypedAttribute
  deriving Inhabited

namespace Blueprint

/-- Resolve the type hints in the order of declaration, also those of attributes that turn out to
take no part. -/
def resolveAttributes : List Attribute → Except ReferenceError (List TypedAttribute)
  | [] => .ok []
  | a :: rest =>
    match a.hint.resolve with
    | .error error => .error error
    | .ok type => (resolveAttributes rest).map (⟨a.name, type, a.data⟩ :: ·)

def ofRecordType : RecordType → Except SchemaFailure Blueprint
  | .declared d =>
    match d.template with
    | some (.text template) =>
      match resolveAttributes d.attributes with
      | .ok attributes => .ok ⟨d.name, template, attributes⟩
      | .error error => .error (error.toSchemaFailure d.name)
    | _ => .error (.refused (.missingTemplate d.name))
  | type => .error (.notARecord type)

end Blueprint

namespace TypedAttribute

/-- An explicit role wins; otherwise the names `scheme` and `params` carry one, the latter only for
a map. -/
def roleOf (name : Text) (kind : FieldKind) : Option Role → Option Role
  | some role => some role
  | none =>
    if name = Role.scheme.label then some .scheme
    else if name = Role.params.label ∧ kind = .map then some .params
    else none

def fieldOfKind (a : TypedAttribute) (metadata : Metadata) (kind : FieldKind) :
    Except SchemaError Field :=
  let role := roleOf a.name kind metadata.role
  if role = some .params ∧ kind ≠ .map then .error (.paramsNotAMap a.name kind)
  else .ok (.create kind a.name (metadata.variableName.getD []) metadata.fallback role)

/-- The field of an attribute, or nothing for one that takes no part. An attribute without metadata
and without a supported type takes no part; with metadata it is an error. -/
def field? (a : TypedAttribute) : Except SchemaError (Option Field) :=
  match Metadata.read a.metadata with
  | .error violations => .error (.invalidMetadata a.name violations)
  | .ok metadata =>
    if metadata.skip then .ok none
    else
      match metadata.kind.or a.type.kind? with
      | some kind => (a.fieldOfKind metadata kind).map some
      | none => if a.metadata.isNull then .ok none else .error (.unsupportedType a.name a.type)

end TypedAttribute

namespace Schema

def fieldsOf : List TypedAttribute → Except SchemaError (List Field)
  | [] => .ok []
  | a :: rest =>
    match a.field? with
    | .error error => .error error
    | .ok field => (fieldsOf rest).map (field.toList ++ ·)

/-- Hold the attributes against the pattern: each variable needs a field that it feeds. -/
def assemble (blueprint : Blueprint) (pattern : Pattern) : Except SchemaError Schema :=
  match fieldsOf blueprint.attributes with
  | .error error => .error error
  | .ok fields =>
    match pattern.names.find? fun name => fields.all (·.variableName != name) with
    | some name => .error (.unknownVariable blueprint.recordName name)
    | none => .ok ⟨blueprint.recordName, blueprint.template, pattern, fields⟩

def ofRecordType (type : RecordType) : Except SchemaFailure Schema :=
  match Blueprint.ofRecordType type with
  | .error failure => .error failure
  | .ok blueprint =>
    match Pattern.compile blueprint.template with
    | .error error => .error (.refused (.template error))
    | .ok pattern => (assemble blueprint pattern).mapError .refused

def schemeField? (s : Schema) : Option Field := s.fields.find? Field.isScheme

def paramsField? (s : Schema) : Option Field := s.fields.find? Field.isParams

def fieldsFor (s : Schema) (variableName : Text) : List Field :=
  s.fields.filter (·.variableName == variableName)

end Schema

end DsnBinding
