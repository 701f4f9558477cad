import DsnBinding.Proofs.Dsn.Failing
import DsnBinding.Proofs.Dsn.Receiving

/-!
Parsing and the record that is parsed into. Binding comes down to a list of changes in which only
the declaration and the contents of the text have a say, not what the record held before; and of the
query nothing goes anywhere but into the fields with the role of the parameters. So texts with the
same path are parsed alike, into whatever records of the type, and a text that is parsed again
changes nothing.
-/
namespace DsnBinding

def Record.setAll (r : Record) (changes : List (Text × Value)) : Record :=
  { r with attributes := r.attributes.insertAll changes }

/-- The contents of texts with the same path. -/
structure Contents.SamePath (c c' : Contents) : Prop where
  captures : c.captures = c'.captures
  scheme : c.scheme = c'.scheme

/-- The failure as it is reported for another text. -/
def ParseFailure.about (text : Text) : ParseFailure → ParseFailure
  | .refused e => .refused { e with text := text }
  | .unusable error => .unusable error
  | .unshown => .unshown
  | .bareSegment => .bareSegment
  | .unfit error => .unfit error
  | .tooManyDigits count => .tooManyDigits count
  | .noConversion => .noConversion

namespace Field

/-- The change that gives a field of a declared type a value. -/
def changeTo (f : Field) (d : Declaration) (v : Value) :
    Except BindingFailure (List (Text × Value)) :=
  if d.frozen then .error (.refused (.readOnly f.name d.name .frozen)) else .ok [(f.name, v)]

/-- What a field changes in the records of a declared type. -/
def changes (f : Field) (d : Declaration) (contents : Contents) :
    Except BindingFailure (List (Text × Value)) :=
  match f.select contents with
  | .nothing => .ok []
  | .parameters => f.changeTo d (.ofQuery contents.query)
  | .text raw =>
    match f.coerce raw with
    | .ok v => f.changeTo d v
    | .error failure => .error (failure.toBindingFailure f.name)

end Field

/-- What the fields change in the records of a declared type, up to the first that fails. -/
def Contents.changes (contents : Contents) (d : Declaration) :
    List Field → List (Text × Value) × Option BindingFailure
  | [] => ([], none)
  | f :: rest =>
    match f.changes d contents with
    | .error failure => ([], some failure)
    | .ok first =>
      ((first ++ (contents.changes d rest).1), (contents.changes d rest).2)

variable {d : Declaration}

namespace Record

variable {r : Record} {changes : List (Text × Value)}

theorem setAll_append (r : Record) (first later : List (Text × Value)) :
    r.setAll (first ++ later) = (r.setAll first).setAll later := by
  simp only [setAll, OrderedMap.insertAll, List.foldl_append]

theorem IsOf.setAll (h : r.IsOf d) (hnames : ∀ change ∈ changes, change.1 ∈ d.names) :
    (r.setAll changes).IsOf d := by
  refine ⟨h.typeName, h.kind, ?_⟩
  rw [← h.keys] at hnames ⊢
  exact OrderedMap.keys_insertAll hnames

end Record

namespace Field

variable {f : Field} {contents c c' : Contents} {record : Record}

theorem changeTo_eq_ok {v : Value} {changes : List (Text × Value)}
    (h : f.changeTo d v = .ok changes) : changes = [(f.name, v)] := by
  unfold changeTo at h
  split at h
  · cases h
  · exact (Except.ok.inj h).symm

theorem name_of_mem_changes {changes : List (Text × Value)}
    (h : f.changes d contents = .ok changes) :
    ∀ change ∈ changes, change.1 = f.name := by
  unfold Field.changes at h
  split at h
  · obtain rfl := Except.ok.inj h
    simp
  · simp [changeTo_eq_ok h]
  · split at h
    · simp [changeTo_eq_ok h]
    · cases h

theorem put_eq_changeTo (hrecord : record.IsOf d) (hname : f.name ∈ d.names) (v : Value) :
    f.put record v = (f.changeTo d v).map record.setAll := by
  unfold changeTo
  cases hfrozen : d.frozen with
  | false =>
    rw [f.put_eq hrecord hfrozen hname v]
    rfl
  | true =>
    have hkind : record.kind = .declared true d.template.isSome := by
      rw [hrecord.kind, Declaration.kind, hfrozen]
    simp [put, Record.assign, hkind, hrecord.typeName, Except.map]

/-- The record has no say in what a field changes. -/
theorem write_eq_changes (hrecord : record.IsOf d) (hname : f.name ∈ d.names) :
    f.write contents record = (f.changes d contents).map record.setAll := by
  unfold write Field.changes
  cases f.select contents with
  | nothing => rfl
  | parameters => exact put_eq_changeTo hrecord hname _
  | text raw =>
    dsimp only
    cases f.coerce raw with
    | ok v => exact put_eq_changeTo hrecord hname v
    | error failure => rfl

theorem select_of_samePath (h : c.SamePath c') : f.select c' = f.select c := by
  obtain ⟨captures, scheme, query⟩ := c
  obtain ⟨captures', scheme', query'⟩ := c'
  obtain rfl : captures = captures' := h.captures
  obtain rfl : scheme = scheme' := h.scheme
  rfl

theorem changes_of_samePath (h : c.SamePath c') (hparams : f.isParams = false) :
    f.changes d c' = f.changes d c := by
  have hnot : f.select c ≠ .parameters := by
    unfold select
    rw [hparams]
    split
    · contradiction
    · split
      · exact nofun
      · split
        · exact nofun
        · split <;> exact nofun
  unfold Field.changes
  rw [select_of_samePath h]
  cases hselect : f.select c with
  | parameters => exact absurd hselect hnot
  | nothing | text _ => rfl

/-- With another query a field fails as before, or it does not fail as before. -/
theorem changes_cases_of_samePath (h : c.SamePath c') :
    (∃ failure, f.changes d c = .error failure ∧ f.changes d c' = .error failure) ∨
      ∃ changes changes', f.changes d c = .ok changes ∧ f.changes d c' = .ok changes' := by
  cases hparams : f.isParams with
  | false =>
    rw [changes_of_samePath h hparams]
    cases f.changes d c with
    | error failure => exact Or.inl ⟨failure, rfl, rfl⟩
    | ok changes => exact Or.inr ⟨changes, changes, rfl, rfl⟩
  | true =>
    simp only [Field.changes, select_of_isParams hparams, changeTo]
    cases d.frozen with
    | true => exact Or.inl ⟨_, rfl, rfl⟩
    | false => exact Or.inr ⟨_, _, rfl, rfl⟩

end Field

namespace Contents

variable {contents c c' : Contents} {fields : List Field} {record : Record}

theorem names_of_mem_changes {change : Text × Value} (h : change ∈ (contents.changes d fields).1) :
    change.1 ∈ fields.map Field.name := by
  induction fields with
  | nil => simp [Contents.changes] at h
  | cons f rest ih =>
    unfold Contents.changes at h
    split at h
    · simp at h
    · rename_i first hfirst
      rcases List.mem_append.1 h with h | h
      · exact List.mem_cons.2 (Or.inl (Field.name_of_mem_changes hfirst change h))
      · exact List.mem_cons_of_mem _ (ih h)

theorem bind_eq_changes (hrecord : record.IsOf d) (hnames : ∀ f ∈ fields, f.name ∈ d.names) :
    contents.bind fields record =
      (record.setAll (contents.changes d fields).1, (contents.changes d fields).2) := by
  induction fields generalizing record with
  | nil => rfl
  | cons f rest ih =>
    have hname := hnames f List.mem_cons_self
    rw [bind, Contents.changes, Field.write_eq_changes hrecord hname]
    cases hfirst : f.changes d contents with
    | error failure => rfl
    | ok first =>
      have hrecord' : (record.setAll first).IsOf d :=
        hrecord.setAll fun change hchange => Field.name_of_mem_changes hfirst change hchange ▸ hname
      simp only [Except.map]
      rw [ih hrecord' fun g hg => hnames g (List.mem_cons_of_mem f hg), Record.setAll_append]

/-- The query has no say in how binding fails, nor in what an attribute is given that is not a field
for the parameters. -/
theorem changes_of_samePath (h : c.SamePath c') :
    (c'.changes d fields).2 = (c.changes d fields).2 ∧
      ∀ name, (∀ f ∈ fields, f.isParams = true → f.name ≠ name) →
        (c'.changes d fields).1.filter (·.1 = name) = (c.changes d fields).1.filter (·.1 = name) := by
  induction fields with
  | nil => exact ⟨rfl, fun _ _ => rfl⟩
  | cons f rest ih =>
    obtain ⟨hfailure, hfilter⟩ := ih
    unfold Contents.changes
    rcases Field.changes_cases_of_samePath (f := f) (d := d) h with
      ⟨failure, hc, hc'⟩ | ⟨first, first', hc, hc'⟩
    · rw [hc, hc']
      exact ⟨rfl, fun _ _ => rfl⟩
    · rw [hc, hc']
      dsimp only
      refine ⟨hfailure, ?_⟩
      intro name hname
      have hfirst : first'.filter (·.1 = name) = first.filter (·.1 = name) := by
        by_cases hf : f.name = name
        · have hparams : f.isParams = false :=
            Bool.eq_false_iff.2 fun hparams => hname f List.mem_cons_self hparams hf
          have hsame := Field.changes_of_samePath (d := d) h hparams
          rw [hc, hc'] at hsame
          rw [Except.ok.inj hsame]
        · have hnone : ∀ l : List (Text × Value), (∀ change ∈ l, change.1 = f.name) →
              l.filter (·.1 = name) = [] := by
            intro l hl
            refine List.filter_eq_nil_iff.2 fun change hchange => ?_
            simpa [hl change hchange] using hf
          rw [hnone first (Field.name_of_mem_changes hc), hnone first' (Field.name_of_mem_changes hc')]
      rw [List.filter_append, List.filter_append, hfirst,
        hfilter name fun g hg => hname g (List.mem_cons_of_mem f hg)]

end Contents

namespace Schema

variable {s : Schema} {t t' : Text}

end Schema

namespace RecordType

variable {s : Schema} {record : Record} {text : Text}

/-- Parsing into a record of a declared type makes the changes that the contents of the text call
for. -/
theorem parse_eq_changes {contents : Contents}
    (hschema : Schema.ofRecordType (.declared d) = .ok s) (hrecord : record.IsOf d)
    (hread : s.read text = .ok contents) :
    (RecordType.declared d).parse record text =
      (record.setAll (contents.changes d s.fields).1,
        (contents.changes d s.fields).2.map (s.bindingFailure text)) := by
  have hnames : ∀ f ∈ s.fields, f.name ∈ d.names := fun f hf =>
    (Schema.isOf_of_ofRecordType hschema).names.subset (List.mem_map_of_mem hf)
  simp only [parse, parseWith, hschema, Schema.parse, hread,
    Contents.bind_eq_changes hrecord hnames]

theorem parse_of_read_eq_error {failure : ParseFailure}
    (hschema : Schema.ofRecordType (.declared d) = .ok s) (hread : s.read text = .error failure) :
    (RecordType.declared d).parse record text = (record, some failure) := by
  simp only [parse, parseWith, hschema, Schema.parse, hread]

theorem parse_of_schema_eq_error {type : RecordType} {failure : SchemaFailure}
    (hschema : Schema.ofRecordType type = .error failure) :
    type.parse record text = (record, some (type.schemaFailure text failure)) := by
  simp only [parse, parseWith, hschema]

end RecordType

end DsnBinding
