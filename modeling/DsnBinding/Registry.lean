import DsnBinding.Schema

/-!
Compiled patterns and schemas are kept and handed out again, so that one template or one record type
yields the same object until it is forgotten. Each kind is kept in two places, a place of one's own
and a common one. A schema takes its pattern from the common place wherever the schema itself is
kept, and the pattern stays there even if the schema then fails.
-/
namespace DsnBinding

/-- An object that was built once: equal contents can have different identities. -/
structure Shared (α : Type) where
  identity : Nat
  content : α
  deriving Repr, DecidableEq, Inhabited

structure LinkedSchema where
  schema : Schema
  pattern : Shared Pattern
  deriving DecidableEq, Inhabited

inductive Place where
  | own
  | common
  deriving Repr, DecidableEq, Inhabited

structure Placed (α : Type) where
  own : α
  common : α
  deriving Repr, DecidableEq, Inhabited

namespace Placed

variable {α : Type}

def get (p : Placed α) : Place → α
  | .own => p.own
  | .common => p.common

def set (p : Placed α) (place : Place) (a : α) : Placed α :=
  match place with
  | .own => { p with own := a }
  | .common => { p with common := a }

end Placed

abbrev PatternStore := OrderedMap Text (Shared Pattern)

/-- Record types are told apart by a key, since equal declarations can belong to different types. -/
abbrev SchemaStore := OrderedMap Nat (Shared LinkedSchema)

/-- A value that no store can look up, given by the name of its type. -/
structure NotAKey where
  typeName : Text
  deriving Repr, DecidableEq, Inhabited

def NotAKey.message (e : NotAKey) : String :=
  "unhashable type: '" ++ String.ofList e.typeName ++ "'"

/-- Every type can be looked up, and so can every bare value in place of one, except for a map. -/
def RecordType.notAKey? : RecordType → Option NotAKey
  | .value (.map entries) => some ⟨(Value.map entries).typeName⟩
  | _ => none

inductive RequestFailure where
  | schema (failure : SchemaFailure)
  | notAKey (error : NotAKey)
  deriving Repr, DecidableEq, Inhabited

structure Registry where
  patterns : Placed PatternStore
  schemas : Placed SchemaStore
  /-- The identity that the next object gets. -/
  next : Nat
  deriving DecidableEq, Inhabited

namespace Registry

def empty : Registry := ⟨⟨.empty, .empty⟩, ⟨.empty, .empty⟩, 0⟩

def keepPattern (r : Registry) (place : Place) (pattern : Pattern) : Shared Pattern × Registry :=
  let shared : Shared Pattern := ⟨r.next, pattern⟩
  let store := (r.patterns.get place).insert pattern.template shared
  (shared, { r with patterns := r.patterns.set place store, next := r.next + 1 })

def pattern (r : Registry) (place : Place) (template : Text) :
    Except Template.Error (Shared Pattern) × Registry :=
  match (r.patterns.get place).get? template with
  | some shared => (.ok shared, r)
  | none =>
    match Pattern.compile template with
    | .error error => (.error error, r)
    | .ok pattern =>
      let (shared, r) := r.keepPattern place pattern
      (.ok shared, r)

def keepSchema (r : Registry) (place : Place) (key : Nat) (linked : LinkedSchema) :
    Shared LinkedSchema × Registry :=
  let shared : Shared LinkedSchema := ⟨r.next, linked⟩
  let store := (r.schemas.get place).insert key shared
  (shared, { r with schemas := r.schemas.set place store, next := r.next + 1 })

def buildSchema (r : Registry) (type : RecordType) :
    Except SchemaFailure LinkedSchema × Registry :=
  match Blueprint.ofRecordType type with
  | .error failure => (.error failure, r)
  | .ok blueprint =>
    match r.pattern .common blueprint.template with
    | (.error error, r) => (.error (.refused (.template error)), r)
    | (.ok pattern, r) =>
      (((Schema.assemble blueprint pattern.content).mapError .refused).map (⟨·, pattern⟩), r)

/-- The schema of a record type, built if it is not kept in the place. -/
def schema (r : Registry) (place : Place) (key : Nat) (type : RecordType) :
    Except SchemaFailure (Shared LinkedSchema) × Registry :=
  match (r.schemas.get place).get? key with
  | some shared => (.ok shared, r)
  | none =>
    match r.buildSchema type with
    | (.error failure, r) => (.error failure, r)
    | (.ok linked, r) =>
      let (shared, r) := r.keepSchema place key linked
      (.ok shared, r)

/-- The schema of whatever is asked for, unless it cannot be looked up. -/
def requestSchema (r : Registry) (place : Place) (key : Nat) (type : RecordType) :
    Except RequestFailure (Shared LinkedSchema) × Registry :=
  match type.notAKey? with
  | some error => (.error (.notAKey error), r)
  | none =>
    let (shared, r) := r.schema place key type
    (shared.mapError .schema, r)

def holdsSchema (r : Registry) (place : Place) (key : Nat) (type : RecordType) :
    Except NotAKey Bool :=
  match type.notAKey? with
  | some error => .error error
  | none => .ok ((r.schemas.get place).contains key)

def forgetPatterns (r : Registry) (place : Place) : Registry :=
  { r with patterns := r.patterns.set place .empty }

def forgetSchemas (r : Registry) (place : Place) : Registry :=
  { r with schemas := r.schemas.set place .empty }

end Registry

end DsnBinding
