import DsnBinding.Declaration.Scope
import DsnBinding.Proofs.Metadata
import DsnBinding.Proofs.Schema
import DsnBinding.Proofs.TypeHint

/-!
How a schema comes about, told of the declaration alone. An attribute is at fault, is described by a
field, or is left out. Building a schema ends with the first that is wrong: the type, its template, a
reference in a type hint, the form of the template, an attribute, a variable; each group is searched
from the front. If nothing is wrong, the fields describe the attributes in order.
-/
namespace DsnBinding

namespace Attribute

/-- The kind that the metadata names, or the one that the type hint stands for. -/
def HasKind (a : Attribute) (metadata : Metadata) (kind : FieldKind) : Prop :=
  metadata.kind = some kind ∨ metadata.kind = none ∧ a.hint.Supports kind

/-- The role that the metadata names, or the one that the name of the attribute carries. -/
inductive HasRole (a : Attribute) (metadata : Metadata) (kind : FieldKind) : Option Role → Prop
  | named {role : Role} (h : metadata.role = some role) : HasRole a metadata kind (some role)
  | scheme (hrole : metadata.role = none) (h : a.name = Role.scheme.label) :
      HasRole a metadata kind (some .scheme)
  | params (hrole : metadata.role = none) (h : a.name = Role.params.label) (hkind : kind = .map) :
      HasRole a metadata kind (some .params)
  | none (hrole : metadata.role = none) (hscheme : a.name ≠ Role.scheme.label)
      (hparams : a.name = Role.params.label → kind ≠ .map) : HasRole a metadata kind none

/-- What can be wrong with an attribute. -/
inductive Faulty (a : Attribute) : SchemaError → Prop
  | metadata {violations : List Metadata.Violation} (h : ∀ metadata, ¬ Metadata.States a.data metadata)
      (hviolations : Metadata.read a.data = .error violations) :
      Faulty a (.invalidMetadata a.name violations)
  | type {metadata : Metadata} {type : ResolvedType} (hstates : Metadata.States a.data metadata)
      (hskip : metadata.skip = false) (hgiven : a.data ≠ .null)
      (hkind : ∀ kind, ¬ a.HasKind metadata kind) (htype : a.hint.resolve = .ok type) :
      Faulty a (.unsupportedType a.name type)
  | params {metadata : Metadata} {kind : FieldKind} (hstates : Metadata.States a.data metadata)
      (hskip : metadata.skip = false) (hkind : a.HasKind metadata kind)
      (hrole : a.HasRole metadata kind (some .params)) (hmap : kind ≠ .map) :
      Faulty a (.paramsNotAMap a.name kind)

/-- The field of an attribute that takes part. -/
structure IsDescribedBy (a : Attribute) (metadata : Metadata) (f : Field) :
    Prop where
  states : Metadata.States a.data metadata
  skip : metadata.skip = false
  kind : a.HasKind metadata f.kind
  role : a.HasRole metadata f.kind f.role
  params : f.role = some .params → f.kind = .map
  name : f.name = a.name
  variableName : f.variableName = metadata.variableName.getD (Field.pascalCase a.name)
  typeName : f.typeName = f.kind.label
  fallback : f.fallback = metadata.fallback

/-- An attribute takes no part if it is skipped, or if it has neither metadata nor a kind. -/
def IsLeftOut (a : Attribute) : Prop :=
  ∃ metadata, Metadata.States a.data metadata ∧
    (metadata.skip = true ∨ a.data = .null ∧ ∀ kind, ¬ a.HasKind metadata kind)

end Attribute

namespace Declaration

/-- The references in the type hints, in order. -/
def references (d : Declaration) : List Reference := d.attributes.flatMap (·.hint.references)

def Resolves (d : Declaration) : Prop :=
  ∀ r ∈ d.references, ∃ type, r.meaning = .type type

/-- The first reference that means no type, by its error. -/
def FirstUnresolved (d : Declaration) (error : ReferenceError) : Prop :=
  FirstFault (fun (r : Reference) error => r.meaning = .error error) d.references error

end Declaration

namespace Schema

/-- Fields for all attributes but those that are left out, in order. -/
inductive Describe : List Attribute → List Field → Prop
  | nil : Describe [] []
  | field {a : Attribute} {metadata : Metadata} {f : Field} {rest : List Attribute}
      {fields : List Field} (h : a.IsDescribedBy metadata f)
      (hrest : Describe rest fields) : Describe (a :: rest) (f :: fields)
  | leftOut {a : Attribute} {rest : List Attribute} {fields : List Field} (h : a.IsLeftOut)
      (hrest : Describe rest fields) : Describe (a :: rest) fields

/-- What is wrong with a type first, or its schema. -/
inductive Builds : RecordType → Except SchemaFailure Schema → Prop
  | notARecord {type : RecordType} {shown : String} (h : ∀ d, type ≠ .declared d)
      (hshown : type.shown? = some shown) : Builds type (.error (.refused (.notARecord shown)))
  | unshown {v : Value} (h : v.isTooLong = true) : Builds (.value v) (.error .unshown)
  | missingTemplate {d : Declaration} (h : ∀ t, d.template ≠ some (.text t)) :
      Builds (.declared d) (.error (.refused (.missingTemplate d.name)))
  | undefined {d : Declaration} {t : Text} {reason : String} (ht : d.template = some (.text t))
      (h : d.FirstUnresolved (.undefined reason)) :
      Builds (.declared d) (.error (.refused (.unresolvedReference d.name reason)))
  | unusable {d : Declaration} {t : Text} {error : UnusableReference}
      (ht : d.template = some (.text t)) (h : d.FirstUnresolved (.unusable error)) :
      Builds (.declared d) (.error (.unusable error))
  | malformed {d : Declaration} {t : Text} {error : Template.Error}
      (ht : d.template = some (.text t)) (hresolves : d.Resolves)
      (h : Pattern.compile t = .error error) :
      Builds (.declared d) (.error (.refused (.template error)))
  | faulty {d : Declaration} {t : Text} {p : Pattern} {error : SchemaError}
      (ht : d.template = some (.text t)) (hresolves : d.Resolves)
      (hcompiled : Pattern.compile t = .ok p)
      (h : FirstFault Attribute.Faulty d.attributes error) :
      Builds (.declared d) (.error (.refused error))
  | unknown {d : Declaration} {t name : Text} {p : Pattern} {fields : List Field}
      {before behind : List Text} (ht : d.template = some (.text t)) (hresolves : d.Resolves)
      (hcompiled : Pattern.compile t = .ok p) (hfields : Describe d.attributes fields)
      (hnames : p.names = before ++ name :: behind)
      (hbefore : ∀ name ∈ before, ∃ f ∈ fields, f.variableName = name)
      (h : ∀ f ∈ fields, f.variableName ≠ name) :
      Builds (.declared d) (.error (.refused (.unknownVariable d.name name)))
  | schema {d : Declaration} {t : Text} {p : Pattern} {fields : List Field}
      (ht : d.template = some (.text t)) (hresolves : d.Resolves)
      (hcompiled : Pattern.compile t = .ok p) (hfields : Describe d.attributes fields)
      (hfed : ∀ name ∈ p.names, ∃ f ∈ fields, f.variableName = name) :
      Builds (.declared d) (.ok ⟨d.name, t, p, fields⟩)

end Schema

namespace Attribute

variable {a : Attribute} {type : ResolvedType} {metadata : Metadata}
  {kind : FieldKind}

theorem hasKind_iff (htype : a.hint.resolve = .ok type) :
    a.HasKind metadata kind ↔ metadata.kind.or type.kind? = some kind := by
  rw [Option.or_eq_some_iff, TypeHint.kind?_eq_some_iff htype]
  rfl

theorem hasRole_iff {role : Option Role} :
    a.HasRole metadata kind role ↔ TypedAttribute.roleOf a.name kind metadata.role = role := by
  have hdistinct : Role.params.label ≠ Role.scheme.label := by decide
  unfold TypedAttribute.roleOf
  constructor
  · intro h
    cases h with
    | named h => rw [h]
    | scheme hrole h => simp [hrole, h]
    | params hrole h hkind => simp [hrole, h, hkind, hdistinct]
    | none hrole hscheme hparams => simpa [hrole, hscheme] using hparams
  · rintro rfl
    cases hrole : metadata.role with
    | some role => exact .named hrole
    | none =>
      dsimp only
      split
      · rename_i hscheme
        exact .scheme hrole hscheme
      rename_i hscheme
      split
      · rename_i hparams
        exact .params hrole hparams.1 hparams.2
      · rename_i hparams
        exact .none hrole hscheme fun h hkind => hparams ⟨h, hkind⟩

/-- The attribute as it is once its hint is resolved. -/
def typed (a : Attribute) (type : ResolvedType) : TypedAttribute := ⟨a.name, type, a.data⟩

theorem or_eq_none_iff (htype : a.hint.resolve = .ok type) :
    metadata.kind.or type.kind? = none ↔ ∀ kind, ¬ a.HasKind metadata kind := by
  simp only [hasKind_iff htype, Option.eq_none_iff_forall_ne_some, ne_eq]

theorem Faulty.field?_eq {error : SchemaError} (h : a.Faulty error)
    (htype : a.hint.resolve = .ok type) : (a.typed type).field? = .error error := by
  unfold TypedAttribute.field? typed
  cases h with
  | metadata _ hread => simp only [hread]
  | type hstates hskip hgiven hkind htype' =>
    obtain rfl := Except.ok.inj (htype.symm.trans htype')
    have hnone := (or_eq_none_iff htype).2 hkind
    simp [Metadata.read_eq_ok.2 hstates, hskip, hnone, hgiven]
  | params hstates hskip hkind hrole hmap =>
    have hsome := (hasKind_iff htype).1 hkind
    have hparams := hasRole_iff.1 hrole
    simp [Metadata.read_eq_ok.2 hstates, hskip, hsome, TypedAttribute.fieldOfKind, hparams, hmap,
      Except.map]

theorem IsLeftOut.field?_eq (h : a.IsLeftOut) (htype : a.hint.resolve = .ok type) :
    (a.typed type).field? = .ok none := by
  unfold TypedAttribute.field? typed
  obtain ⟨metadata, hstates, hskip | ⟨hgiven, hkind⟩⟩ := h
  · simp [Metadata.read_eq_ok.2 hstates, hskip]
  · have hnone := (or_eq_none_iff htype).2 hkind
    dsimp only
    rw [Metadata.read_eq_ok.2 hstates]
    simp [hnone, hgiven]

theorem IsDescribedBy.field?_eq {f : Field} (h : a.IsDescribedBy metadata f)
    (htype : a.hint.resolve = .ok type) : (a.typed type).field? = .ok (some f) := by
  have hcreate : Field.create f.kind a.name (metadata.variableName.getD []) metadata.fallback
      f.role = ⟨a.name, metadata.variableName.getD (Field.pascalCase a.name), f.kind, f.kind.label,
        metadata.fallback, f.role⟩ := by
    unfold Field.create
    cases hname : metadata.variableName with
    | none => simp
    | some name => simp [h.states.ne_nil hname]
  have hfield : (a.typed type).fieldOfKind metadata f.kind = .ok f := by
    have hrole : TypedAttribute.roleOf (a.typed type).name f.kind metadata.role = f.role :=
      hasRole_iff.1 h.role
    unfold TypedAttribute.fieldOfKind
    simp only [hrole]
    rw [if_neg fun hparams => hparams.2 (h.params hparams.1)]
    refine congrArg Except.ok (hcreate.trans ?_)
    rw [← h.variableName, ← h.name, ← h.typeName, ← h.fallback]
  have hsome := (hasKind_iff htype).1 h.kind
  unfold typed at hfield ⊢
  simp [TypedAttribute.field?, Metadata.read_eq_ok.2 h.states, h.skip, hsome, hfield, Except.map]

theorem faulty_or_leftOut_or_described (htype : a.hint.resolve = .ok type) :
    (∃ error, a.Faulty error) ∨ a.IsLeftOut ∨
      ∃ metadata f, a.IsDescribedBy metadata f := by
  cases hread : Metadata.read a.data with
  | error violations =>
    refine Or.inl ⟨_, .metadata (fun metadata hstates => ?_) hread⟩
    cases hread.symm.trans (Metadata.read_eq_ok.2 hstates)
  | ok metadata =>
    have hstates := Metadata.read_eq_ok.1 hread
    cases hskip : metadata.skip with
    | true => exact Or.inr (Or.inl ⟨metadata, hstates, Or.inl hskip⟩)
    | false =>
      cases hkind : metadata.kind.or type.kind? with
      | none =>
        have hnone := (or_eq_none_iff htype).1 hkind
        by_cases hgiven : a.data = .null
        · exact Or.inr (Or.inl ⟨metadata, hstates, Or.inr ⟨hgiven, hnone⟩⟩)
        · exact Or.inl ⟨_, .type hstates hskip hgiven hnone htype⟩
      | some kind =>
        have hkind := (hasKind_iff htype).2 hkind
        by_cases hparams : a.HasRole metadata kind (some .params) ∧ kind ≠ .map
        · exact Or.inl ⟨_, .params hstates hskip hkind hparams.1 hparams.2⟩
        · refine Or.inr (Or.inr ⟨metadata, ⟨a.name, metadata.variableName.getD
            (Field.pascalCase a.name), kind, kind.label, metadata.fallback,
            TypedAttribute.roleOf a.name kind metadata.role⟩, ?_⟩)
          refine ⟨hstates, hskip, hkind, hasRole_iff.2 rfl, ?_, rfl, rfl, rfl, rfl⟩
          intro hrole
          exact Decidable.byContradiction fun hmap => hparams ⟨hasRole_iff.2 hrole, hmap⟩

theorem field?_eq_error {error : SchemaError} (htype : a.hint.resolve = .ok type) :
    (a.typed type).field? = .error error ↔ a.Faulty error := by
  refine ⟨fun h => ?_, fun h => h.field?_eq htype⟩
  rcases faulty_or_leftOut_or_described htype with ⟨error', hfault⟩ | hleft | ⟨_, _, hfield⟩
  · obtain rfl := Except.error.inj ((hfault.field?_eq htype).symm.trans h)
    exact hfault
  · cases (hleft.field?_eq htype).symm.trans h
  · cases (hfield.field?_eq htype).symm.trans h

theorem field?_eq_none (htype : a.hint.resolve = .ok type) :
    (a.typed type).field? = .ok none ↔ a.IsLeftOut := by
  refine ⟨fun h => ?_, fun h => h.field?_eq htype⟩
  rcases faulty_or_leftOut_or_described htype with ⟨_, hfault⟩ | hleft | ⟨_, _, hfield⟩
  · cases (hfault.field?_eq htype).symm.trans h
  · exact hleft
  · cases (hfield.field?_eq htype).symm.trans h

theorem field?_eq_some {f : Field} (htype : a.hint.resolve = .ok type) :
    (a.typed type).field? = .ok (some f) ↔ ∃ metadata, a.IsDescribedBy metadata f := by
  refine ⟨fun h => ?_, fun ⟨_, hfield⟩ => hfield.field?_eq htype⟩
  rcases faulty_or_leftOut_or_described htype with ⟨_, hfault⟩ | hleft | ⟨metadata, f', hfield⟩
  · cases (hfault.field?_eq htype).symm.trans h
  · cases (hleft.field?_eq htype).symm.trans h
  · obtain rfl := Option.some.inj (Except.ok.inj ((hfield.field?_eq htype).symm.trans h))
    exact ⟨metadata, hfield⟩

end Attribute

namespace Blueprint

variable {attributes : List Attribute}

theorem resolveAttributes_eq_error {error : ReferenceError} :
    resolveAttributes attributes = .error error ↔
      FirstFault (fun (r : Reference) error => r.meaning = .error error)
        (attributes.flatMap (·.hint.references)) error := by
  induction attributes with
  | nil => simp [resolveAttributes, not_firstFault_nil]
  | cons a rest ih =>
    rw [List.flatMap_cons, firstFault_append, forall_not_iff, ← ih, resolveAttributes]
    simp only [← TypeHint.resolve_eq_error]
    cases htype : a.hint.resolve with
    | error error' => simp
    | ok type => simp [map_eq_error]

theorem resolveAttributes_cons_eq_ok {a : Attribute} {typed : List TypedAttribute}
    (h : resolveAttributes (a :: attributes) = .ok typed) :
    ∃ type others, a.hint.resolve = .ok type ∧
      resolveAttributes attributes = .ok others ∧ typed = a.typed type :: others := by
  unfold resolveAttributes at h
  split at h
  · cases h
  · rename_i type htype
    obtain ⟨others, hothers, rfl⟩ := map_eq_ok.1 h
    exact ⟨type, others, htype, hothers, rfl⟩

end Blueprint

namespace Schema

variable {a : Attribute} {attributes : List Attribute}
  {typed : List TypedAttribute} {type : RecordType} {result : Except SchemaFailure Schema}

theorem fieldsOf_eq_error {error : SchemaError}
    (h : Blueprint.resolveAttributes attributes = .ok typed) :
    fieldsOf typed = .error error ↔ FirstFault Attribute.Faulty attributes error := by
  induction attributes generalizing typed with
  | nil =>
    obtain rfl := Except.ok.inj h
    simp [fieldsOf, not_firstFault_nil]
  | cons a rest ih =>
    obtain ⟨type, others, htype, hrest, rfl⟩ := Blueprint.resolveAttributes_cons_eq_ok h
    rw [firstFault_cons, ← ih hrest, fieldsOf]
    simp only [← Attribute.field?_eq_error htype]
    cases hfield : (a.typed type).field? with
    | error error' => simp
    | ok field => simp [map_eq_error]

theorem describe_cons {fields : List Field} {type : ResolvedType}
    (htype : a.hint.resolve = .ok type) :
    Describe (a :: attributes) fields ↔ ∃ field others,
      (a.typed type).field? = .ok field ∧ Describe attributes others ∧
        field.toList ++ others = fields := by
  constructor
  · intro h
    cases h with
    | field h hrest => exact ⟨_, _, h.field?_eq htype, hrest, rfl⟩
    | leftOut h hrest => exact ⟨_, _, h.field?_eq htype, hrest, rfl⟩
  · rintro ⟨field, others, hfield, hrest, rfl⟩
    cases field with
    | none => exact .leftOut ((Attribute.field?_eq_none htype).1 hfield) hrest
    | some f =>
      obtain ⟨metadata, hf⟩ := (Attribute.field?_eq_some htype).1 hfield
      exact .field hf hrest

theorem fieldsOf_eq_ok_iff {fields : List Field}
    (h : Blueprint.resolveAttributes attributes = .ok typed) :
    fieldsOf typed = .ok fields ↔ Describe attributes fields := by
  induction attributes generalizing typed fields with
  | nil =>
    obtain rfl := Except.ok.inj h
    constructor
    · intro h
      obtain rfl := Except.ok.inj h
      exact .nil
    · rintro ⟨⟩
      rfl
  | cons a rest ih =>
    obtain ⟨type, others, htype, hrest, rfl⟩ := Blueprint.resolveAttributes_cons_eq_ok h
    rw [describe_cons htype, fieldsOf]
    simp only [← ih hrest]
    cases hfield : (a.typed type).field? with
    | error error => simp
    | ok field => simp [map_eq_ok]

variable {type : RecordType} {result : Except SchemaFailure Schema}

theorem exists_resolveAttributes {d : Declaration} :
    (∃ typed, Blueprint.resolveAttributes d.attributes = .ok typed) ↔ d.Resolves := by
  have hresolves : d.Resolves ↔ ∀ r ∈ d.references, ∀ error, r.meaning ≠ .error error := by
    refine forall_congr' fun r => forall_congr' fun _ => ?_
    cases r.meaning <;> simp
  rw [hresolves, forall_not_iff]
  unfold Declaration.references
  simp only [← Blueprint.resolveAttributes_eq_error]
  cases Blueprint.resolveAttributes d.attributes <;> simp

theorem ofRecordType_of_compiled {d : Declaration} {t : Text} {p : Pattern}
    (ht : d.template = some (.text t))
    (htyped : Blueprint.resolveAttributes d.attributes = .ok typed)
    (hcompiled : Pattern.compile t = .ok p) :
    ofRecordType (.declared d) = (assemble ⟨d.name, t, typed⟩ p).mapError .refused := by
  simp only [ofRecordType, Blueprint.ofRecordType, ht, htyped, hcompiled]

theorem find?_unfed_eq_some {before behind : List Text} {name : Text} {fields : List Field}
    (hbefore : ∀ name ∈ before, ∃ f ∈ fields, f.variableName = name)
    (h : ∀ f ∈ fields, f.variableName ≠ name) :
    ((before ++ name :: behind).find? fun name => fields.all (·.variableName != name)) =
      some name :=
  List.find?_eq_some_iff_append.2 ⟨by simpa using h, before, behind, rfl, by simpa using hbefore⟩

theorem find?_unfed_eq_none {names : List Text} {fields : List Field}
    (h : ∀ name ∈ names, ∃ f ∈ fields, f.variableName = name) :
    (names.find? fun name => fields.all (·.variableName != name)) = none :=
  List.find?_eq_none.2 (by simpa using h)

theorem Builds.eq (h : Builds type result) : ofRecordType type = result := by
  cases h with
  | @notARecord type shown h hshown =>
    have hnotARecord : SchemaFailure.notARecord type = .refused (.notARecord shown) := by
      simp only [SchemaFailure.notARecord, hshown]
    cases type with
    | declared d => exact absurd rfl (h d)
    | plain _ _ | valueType _ | value _ => exact congrArg Except.error hnotARecord
  | unshown h =>
    simp [ofRecordType, Blueprint.ofRecordType, SchemaFailure.notARecord, RecordType.shown?, h]
  | @missingTemplate d h =>
    have hblueprint : Blueprint.ofRecordType (.declared d) =
        .error (.refused (.missingTemplate d.name)) := by
      simp only [Blueprint.ofRecordType]
    simp only [ofRecordType, hblueprint]
  | undefined ht h =>
    simp only [ofRecordType, Blueprint.ofRecordType, ht, Blueprint.resolveAttributes_eq_error.2 h]
    rfl
  | unusable ht h =>
    simp only [ofRecordType, Blueprint.ofRecordType, ht, Blueprint.resolveAttributes_eq_error.2 h]
    rfl
  | malformed ht hresolves h =>
    obtain ⟨typed, htyped⟩ := exists_resolveAttributes.2 hresolves
    simp only [ofRecordType, Blueprint.ofRecordType, ht, htyped, h]
  | faulty ht hresolves hcompiled h =>
    obtain ⟨typed, htyped⟩ := exists_resolveAttributes.2 hresolves
    rw [ofRecordType_of_compiled ht htyped hcompiled]
    simp only [assemble, (fieldsOf_eq_error htyped).2 h]
    rfl
  | unknown ht hresolves hcompiled hfields hnames hbefore h =>
    obtain ⟨typed, htyped⟩ := exists_resolveAttributes.2 hresolves
    rw [ofRecordType_of_compiled ht htyped hcompiled]
    simp only [assemble, (fieldsOf_eq_ok_iff htyped).2 hfields, hnames,
      find?_unfed_eq_some hbefore h]
    rfl
  | schema ht hresolves hcompiled hfields hfed =>
    obtain ⟨typed, htyped⟩ := exists_resolveAttributes.2 hresolves
    rw [ofRecordType_of_compiled ht htyped hcompiled]
    simp only [assemble, (fieldsOf_eq_ok_iff htyped).2 hfields, find?_unfed_eq_none hfed]
    rfl

theorem exists_builds (type : RecordType) : ∃ result, Builds type result := by
  cases type with
  | plain _ _ | valueType _ => exact ⟨_, .notARecord nofun rfl⟩
  | value v =>
    cases hlong : v.isTooLong with
    | true => exact ⟨_, .unshown hlong⟩
    | false => exact ⟨_, .notARecord nofun (by rw [RecordType.shown?, hlong]; rfl)⟩
  | declared d =>
    by_cases htemplate : ∀ t, d.template ≠ some (.text t)
    · exact ⟨_, .missingTemplate htemplate⟩
    obtain ⟨t, ht⟩ := Classical.not_forall_not.1 htemplate
    cases htyped : Blueprint.resolveAttributes d.attributes with
    | error error =>
      have hfirst : d.FirstUnresolved error := Blueprint.resolveAttributes_eq_error.1 htyped
      cases error with
      | undefined reference => exact ⟨_, .undefined ht hfirst⟩
      | unusable error => exact ⟨_, .unusable ht hfirst⟩
    | ok typed =>
      have hresolves := exists_resolveAttributes.1 ⟨typed, htyped⟩
      cases hcompiled : Pattern.compile t with
      | error error => exact ⟨_, .malformed ht hresolves hcompiled⟩
      | ok p =>
        cases hfields : fieldsOf typed with
        | error error =>
          have hfault := (fieldsOf_eq_error htyped).1 hfields
          exact ⟨_, .faulty ht hresolves hcompiled hfault⟩
        | ok fields =>
          have hdescribe := (fieldsOf_eq_ok_iff htyped).1 hfields
          by_cases hfed : ∀ name ∈ p.names, ∃ f ∈ fields, f.variableName = name
          · exact ⟨_, .schema ht hresolves hcompiled hdescribe hfed⟩
          · obtain ⟨before, name, behind, hnames, hbefore, hname⟩ := exists_first_not hfed
            exact ⟨_, .unknown ht hresolves hcompiled hdescribe hnames hbefore
              fun f hf heq => hname ⟨f, hf, heq⟩⟩

theorem builds_of_eq (h : ofRecordType type = result) : Builds type result := by
  obtain ⟨result', hbuilds⟩ := exists_builds type
  exact hbuilds.eq.symm.trans h ▸ hbuilds

theorem ofRecordType_iff_builds {type : RecordType} {result : Except SchemaFailure Schema} :
    ofRecordType type = result ↔ Builds type result :=
  ⟨builds_of_eq, Builds.eq⟩

/-- A reference that is a keyword means no type, and building the schema fails without an error of the
schema. -/
theorem ofRecordType_keyword_reference :
    let bare : Declaration := ⟨['D'], some (.text ['x']), false, [⟨['p'], .text [], .absent, none⟩]⟩
    ∃ r, bare.scope.reference? "class".toList = some r ∧
      let d : Declaration := { bare with attributes := [⟨['p'], .text [], .reference r, none⟩] }
      d.references = [r] ∧ (∀ type, r.meaning ≠ .type type) ∧
        ∀ error, ofRecordType (.declared d) ≠ .error (.refused error) := by
  intro bare
  refine ⟨⟨"class".toList, .error (.unusable (.notAnExpression "class".toList))⟩, rfl, ?_⟩
  intro d
  have hfails : ofRecordType (.declared d) =
      .error (.unusable (.notAnExpression "class".toList)) :=
    Builds.eq (.unusable rfl ⟨[], _, [], rfl, nofun, rfl⟩)
  refine ⟨rfl, nofun, ?_⟩
  intro error herror
  cases hfails.symm.trans herror

end Schema

end DsnBinding
