import DsnBinding.Proofs.Metadata
import DsnBinding.Proofs.Schema
import DsnBinding.Proofs.TypeHint

/-!
Fields of declared types have a conversion from text. A kind comes from the metadata or from the type
hint, and both name kinds with conversion only.
-/
namespace DsnBinding

theorem NamedType.kind?_ne_untyped (type : NamedType) : type.kind? ≠ some .untyped := by
  intro h
  cases kind?_eq_some.1 h

theorem ResolvedType.kind?_ne_untyped (type : ResolvedType) : type.kind? ≠ some .untyped := by
  unfold kind?
  cases type with
  | absent => exact nofun
  | single type => exact type.kind?_ne_untyped
  | union _ members =>
    dsimp only
    split
    · exact NamedType.kind?_ne_untyped _
    · exact nofun

/-- Metadata names no kind without conversion. -/
theorem Metadata.kind_read {data : Datum} {metadata : Metadata} (h : read data = .ok metadata) :
    metadata.kind ≠ some .untyped := by
  cases read_eq_ok.1 h with
  | nothing _ => exact nofun
  | object _ hstated =>
    intro hkind
    exact absurd (hstated.typed .untyped hkind) (by decide)

theorem TypedAttribute.kind_field? {a : TypedAttribute} {f : Field} (h : a.field? = .ok (some f)) :
    f.kind ≠ .untyped := by
  unfold field? at h
  split at h
  · cases h
  · rename_i metadata hread
    have hmetadata := Metadata.kind_read hread
    split at h
    · cases h
    · split at h
      · rename_i kind hkind
        obtain ⟨f', hf', heq⟩ := map_eq_ok.1 h
        obtain rfl := Option.some.inj heq
        have hne : kind ≠ .untyped := by
          rintro rfl
          rcases Option.or_eq_some_iff.1 hkind with hkind | ⟨-, hkind⟩
          · exact hmetadata hkind
          · exact a.type.kind?_ne_untyped hkind
        unfold fieldOfKind at hf'
        dsimp only at hf'
        split at hf'
        · cases hf'
        · obtain rfl := Except.ok.inj hf'
          exact hne
      · split at h <;> cases h

namespace Schema

theorem kind_fieldsOf {attributes : List TypedAttribute} {fields : List Field}
    (h : fieldsOf attributes = .ok fields) : ∀ f ∈ fields, f.kind ≠ .untyped := by
  induction attributes generalizing fields with
  | nil =>
    obtain rfl := Except.ok.inj h
    simp
  | cons a rest ih =>
    unfold fieldsOf at h
    split at h
    · cases h
    · rename_i field hfield
      obtain ⟨fields', hfields, rfl⟩ := map_eq_ok.1 h
      intro f hf
      rcases List.mem_append.1 hf with hf | hf
      · obtain rfl := Option.mem_toList.1 hf
        exact TypedAttribute.kind_field? hfield
      · exact ih hfields f hf

/-- Each field of a schema is converted from text. -/
theorem kind_of_ofRecordType {d : Declaration} {s : Schema} (h : ofRecordType (.declared d) = .ok s) :
    ∀ f ∈ s.fields, f.kind ≠ .untyped := by
  obtain ⟨template, attributes, pattern, fields, -, -, -, hfields, -, rfl⟩ := ofRecordType_eq_ok h
  exact kind_fieldsOf hfields

end Schema

end DsnBinding
