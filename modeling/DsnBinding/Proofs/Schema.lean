import DsnBinding.Proofs.Outcome
import DsnBinding.Schema

/-!
What the schema of a declared type has in common with its declaration. Each field belongs to an
attribute of its own, in the order of declaration, parameters go into maps only, and each variable
of the compiled template is fed by a field.
-/
namespace DsnBinding

namespace TypedAttribute

theorem fieldOfKind_eq_ok {a : TypedAttribute} {metadata : Metadata} {kind : FieldKind} {f : Field}
    (h : a.fieldOfKind metadata kind = .ok f) :
    f.name = a.name ∧ (f.isParams = true → f.kind = .map) := by
  unfold fieldOfKind at h
  dsimp only at h
  split at h
  · cases h
  · rename_i hrole
    obtain rfl := Except.ok.inj h
    refine ⟨rfl, ?_⟩
    intro hparams
    refine Decidable.byContradiction fun hkind => hrole ⟨?_, hkind⟩
    simpa [Field.isParams, Field.create] using hparams

theorem field?_eq_some {a : TypedAttribute} {f : Field} (h : a.field? = .ok (some f)) :
    f.name = a.name ∧ (f.isParams = true → f.kind = .map) := by
  unfold field? at h
  split at h
  · cases h
  · split at h
    · cases h
    · split at h
      · obtain ⟨f', hf', heq⟩ := map_eq_ok.1 h
        obtain rfl := Option.some.inj heq
        exact fieldOfKind_eq_ok hf'
      · split at h <;> cases h

end TypedAttribute

theorem Blueprint.names_resolveAttributes {attributes : List Attribute}
    {typed : List TypedAttribute} (h : resolveAttributes attributes = .ok typed) :
    typed.map TypedAttribute.name = attributes.map Attribute.name := by
  induction attributes generalizing typed with
  | nil =>
    obtain rfl := Except.ok.inj h
    rfl
  | cons a rest ih =>
    unfold resolveAttributes at h
    split at h
    · cases h
    · obtain ⟨typed', htyped, rfl⟩ := map_eq_ok.1 h
      rw [List.map_cons, List.map_cons, ih htyped]

namespace Schema

theorem fieldsOf_eq_ok {attributes : List TypedAttribute} {fields : List Field}
    (h : fieldsOf attributes = .ok fields) :
    (fields.map Field.name).Sublist (attributes.map TypedAttribute.name) ∧
      ∀ f ∈ fields, f.isParams = true → f.kind = .map := by
  induction attributes generalizing fields with
  | nil =>
    obtain rfl := Except.ok.inj h
    exact ⟨List.Sublist.refl [], by simp⟩
  | cons a rest ih =>
    unfold fieldsOf at h
    split at h
    · cases h
    · rename_i field hfield
      obtain ⟨fields', hfields, rfl⟩ := map_eq_ok.1 h
      obtain ⟨hnames, hparams⟩ := ih hfields
      cases field with
      | none => exact ⟨hnames.cons a.name, hparams⟩
      | some f =>
        obtain ⟨hname, hmap⟩ := TypedAttribute.field?_eq_some hfield
        refine ⟨?_, ?_⟩
        · simpa [hname] using hnames.cons_cons a.name
        · intro g hg
          rcases List.mem_cons.1 hg with rfl | hg
          · exact hmap
          · exact hparams g hg

theorem mem_fieldsFor {s : Schema} {f : Field} {name : Text} :
    f ∈ s.fieldsFor name ↔ f ∈ s.fields ∧ f.variableName = name := by
  simp [fieldsFor]

/-- A schema that the records of a declaration can have. -/
structure IsOf (d : Declaration) (s : Schema) : Prop where
  template : d.template = some (.text s.template)
  compiled : Pattern.compile s.template = .ok s.pattern
  names : (s.fields.map Field.name).Sublist d.names
  params : ∀ f ∈ s.fields, f.isParams = true → f.kind = .map
  fed : ∀ name ∈ s.pattern.names, ∃ f ∈ s.fields, f.variableName = name

theorem assemble_eq_ok {blueprint : Blueprint} {pattern : Pattern} {s : Schema}
    (h : assemble blueprint pattern = .ok s) :
    ∃ fields, fieldsOf blueprint.attributes = .ok fields ∧
      (∀ name ∈ pattern.names, ∃ f ∈ fields, f.variableName = name) ∧
      s = ⟨blueprint.recordName, blueprint.template, pattern, fields⟩ := by
  unfold assemble at h
  split at h
  · cases h
  · rename_i fields hfields
    split at h
    · cases h
    · rename_i hfed
      refine ⟨fields, hfields, ?_, (Except.ok.inj h).symm⟩
      intro name hname
      simpa using List.find?_eq_none.1 hfed name hname

/-- The parts that a schema of a declared type is built from. -/
theorem ofRecordType_eq_ok {d : Declaration} {s : Schema} (h : ofRecordType (.declared d) = .ok s) :
    ∃ template attributes pattern fields, d.template = some (.text template) ∧
      Blueprint.resolveAttributes d.attributes = .ok attributes ∧
      Pattern.compile template = .ok pattern ∧ fieldsOf attributes = .ok fields ∧
      (∀ name ∈ pattern.names, ∃ f ∈ fields, f.variableName = name) ∧
      s = ⟨d.name, template, pattern, fields⟩ := by
  unfold ofRecordType at h
  split at h
  · cases h
  · rename_i blueprint hblueprint
    split at h
    · cases h
    · rename_i pattern hcompiled
      obtain ⟨fields, hfields, hfed, rfl⟩ := assemble_eq_ok (mapError_eq_ok.1 h)
      simp only [Blueprint.ofRecordType] at hblueprint
      split at hblueprint
      · rename_i template htemplate
        split at hblueprint
        · rename_i attributes hattributes
          obtain rfl := Except.ok.inj hblueprint
          exact ⟨template, attributes, pattern, fields, htemplate, hattributes, hcompiled, hfields,
            hfed, rfl⟩
        · cases hblueprint
      · cases hblueprint

theorem isOf_of_ofRecordType {d : Declaration} {s : Schema}
    (h : ofRecordType (.declared d) = .ok s) : s.IsOf d := by
  obtain ⟨template, attributes, pattern, fields, htemplate, hattributes, hcompiled, hfields, hfed,
    rfl⟩ := ofRecordType_eq_ok h
  obtain ⟨hsublist, hparams⟩ := fieldsOf_eq_ok hfields
  have hnames : attributes.map TypedAttribute.name = d.names :=
    Blueprint.names_resolveAttributes hattributes
  exact ⟨htemplate, hcompiled, hnames ▸ hsublist, hparams, hfed⟩

end Schema

end DsnBinding
