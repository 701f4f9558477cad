import DsnBinding.Proofs.Binding
import DsnBinding.Proofs.Dsn.Parsing
import DsnBinding.Proofs.Dsn.Formatting
import DsnBinding.Proofs.Pattern.Accounting
import DsnBinding.Proofs.Schema

/-!
Schemas that take texts verbatim: each variable occurs once and belongs to one field, which holds
the captured text as it is. After parsing, such a field holds what was captured, or what it held
before if nothing was. The other fields depend on the scheme alone, so a text is parsed if it
matches and they accept its scheme.
-/
namespace DsnBinding

/-- The schema of a declaration that is not frozen and declares each name once. Each variable of the
template occurs once and belongs to one field, which takes any text. -/
structure Schema.IsVerbatim (d : Declaration) (s : Schema) : Prop where
  frozen : d.frozen = false
  distinct : d.names.Nodup
  schema : ofRecordType (.declared d) = .ok s
  names : s.pattern.names.Nodup
  single : ∀ name ∈ s.pattern.names, (s.fieldsFor name).length = 1
  takes : ∀ f ∈ s.fields, f.variableName ∈ s.pattern.names →
    f.kind = .string ∧ f.role = none ∧ f.fallback = none

/-- A field without a captured text can convert what it selects instead. -/
def Field.Accepts (f : Field) (scheme : Text) : Prop :=
  ∀ raw, f.select ⟨.empty, scheme, .empty⟩ = .text raw → ∃ v, f.coerce raw = .ok v

def Schema.Accepts (s : Schema) (scheme : Text) : Prop :=
  ∀ f ∈ s.fields, f.variableName ∉ s.pattern.names → f.Accepts scheme

/-- A record can be formatted, and parsing the output gives the fields of the variables the values
that they have in the record. -/
def RecordType.Recovers (type : RecordType) (s : Schema) (record : Record) : Prop :=
  ∃ output record', type.format record = .ok output ∧ type.parseNew output = .ok record' ∧
    ∀ f ∈ s.fields, f.variableName ∈ s.pattern.names → record'.get? f.name = record.get? f.name

namespace Field

variable {f : Field} {contents : Contents}

theorem select_of_not_captured (h : contents.captures.get? f.variableName = none) :
    f.select contents = f.select ⟨.empty, contents.scheme, .empty⟩ := by
  simp [select, captured, h]

theorem received?_of_captured {t : Text} (hkind : f.kind = .string) (hrole : f.role = none)
    (hfallback : f.fallback = none) (ht : contents.captures.get? f.variableName = some t) :
    f.received? contents = if t = [] then none else some (.text t) := by
  by_cases hnil : t = []
  · simp [received?, select, isParams, isScheme, captured, hrole, hfallback, ht, hnil]
  · simp [received?, f.select_of_captured hrole hnil ht, coerce_of_string hkind, hnil,
      Except.toOption]

end Field

namespace Schema

variable {d : Declaration} {s : Schema} {text output : Text} {record : Record}

namespace IsVerbatim

theorem isOf (h : s.IsVerbatim d) : s.IsOf d := isOf_of_ofRecordType h.schema

theorem fieldsFor_eq (h : s.IsVerbatim d) {f : Field} (hf : f ∈ s.fields)
    (hname : f.variableName ∈ s.pattern.names) : s.fieldsFor f.variableName = [f] := by
  obtain ⟨g, hg⟩ := List.length_eq_one_iff.1 (h.single _ hname)
  have hmem : f ∈ s.fieldsFor f.variableName := by simp [fieldsFor, hf]
  rw [hg, List.mem_singleton] at hmem
  rw [hg, hmem]

theorem receives_iff (h : s.IsVerbatim d) {path : Text} {o : Outcome}
    (hrun : s.pattern.run path = .ok o) (query : Query) :
    (∀ f ∈ s.fields, f.Receives d ⟨o.captures, o.scheme, query⟩) ↔ s.Accepts o.scheme := by
  have hselect : ∀ f : Field, f.variableName ∉ s.pattern.names →
      f.select ⟨o.captures, o.scheme, query⟩ = f.select ⟨.empty, o.scheme, .empty⟩ :=
    fun _ hname => Field.select_of_not_captured (Pattern.not_captured_of_run hrun hname)
  constructor
  · intro hreceives f hf hname raw hraw
    exact (hreceives f hf).coerce raw ((hselect f hname).trans hraw)
  · intro haccepts f hf
    refine ⟨h.isOf.names.subset (List.mem_map_of_mem hf), ?_⟩
    intro raw hraw
    by_cases hname : f.variableName ∈ s.pattern.names
    · exact ⟨.text raw, Field.coerce_of_string (h.takes f hf hname).1 raw⟩
    · exact haccepts f hf hname raw ((hselect f hname).symm.trans hraw)

theorem filling_text_eq (h : s.IsVerbatim d) {filling : Filling}
    (hfilling : s.filling record = .ok filling) {f : Field} (hf : f ∈ s.fields)
    (hname : f.variableName ∈ s.pattern.names) {t : Text}
    (ht : record.get? f.name = some (.text t)) : filling.text f.variableName = t := by
  obtain ⟨hkind, hrole, -⟩ := h.takes f hf hname
  apply filling_text hfilling (h.fieldsFor_eq hf hname) (by simp [Field.isParams, hrole])
  rw [f.textIn_eq ht]
  simp [Field.toText, hkind, Value.isTooLong, Value.display]

end IsVerbatim

end Schema

namespace RecordType

variable {d : Declaration} {s : Schema} {text output : Text} {record : Record}

theorem exists_create_of_parseNew (h : (RecordType.declared d).parseNew text = .ok record) :
    ∃ fresh, (RecordType.declared d).create = .ok fresh := by
  unfold parseNew at h
  split at h
  · cases h
  · rename_i fresh hcreate
    exact ⟨fresh, hcreate⟩

theorem exists_parseNew {fresh : Record} {o : Outcome} (hs : s.IsVerbatim d)
    (hcreate : (RecordType.declared d).create = .ok fresh)
    (hrun : s.pattern.run (text.before '?') = .ok o) (haccepts : s.Accepts o.scheme) :
    ∃ record, (RecordType.declared d).parseNew text = .ok record := by
  obtain rfl := create_eq_ok hcreate
  obtain ⟨record, hbind, -⟩ := Contents.exists_bind (isOf_fresh hs.distinct) hs.frozen
    ((hs.receives_iff hrun (Query.parse (text.after '?'))).2 haccepts)
    (hs.distinct.sublist hs.isOf.names)
  refine ⟨record, ?_⟩
  simp only [parseNew, hcreate, parse, parseWith, hs.schema, Schema.parse, Schema.read,
    Query.extract, hrun, hbind, Option.map_none]

/-- The path of a parsed text matches, the fields beside the variables accept its scheme, and the
field of a variable holds what was captured, or its first value if that is empty. -/
theorem exists_run_of_parseNew (hs : s.IsVerbatim d)
    (h : (RecordType.declared d).parseNew text = .ok record) :
    ∃ o, s.pattern.run (text.before '?') = .ok o ∧ s.Accepts o.scheme ∧
      ∀ f ∈ s.fields, f.variableName ∈ s.pattern.names →
        ∃ t, o.captures.get? f.variableName = some t ∧ record.get? f.name =
          if t = [] then (RecordType.declared d).fresh.get? f.name else some (.text t) := by
  obtain ⟨contents, hread, hbind⟩ := parseNew_eq_ok hs.schema h
  obtain ⟨o, hrun, rfl⟩ := Schema.read_eq_ok hread
  have hreceives : ∀ f ∈ s.fields,
      f.Receives d ⟨o.captures, o.scheme, Query.parse (text.after '?')⟩ :=
    fun f hf => ⟨hs.isOf.names.subset (List.mem_map_of_mem hf),
      fun _ hraw => Contents.coerce_of_bind hbind hf hraw⟩
  obtain ⟨record', hbind', -, hget, -⟩ := Contents.exists_bind (isOf_fresh hs.distinct) hs.frozen
    hreceives (hs.distinct.sublist hs.isOf.names)
  obtain rfl : record' = record := (Prod.mk.inj (hbind'.symm.trans hbind)).1
  refine ⟨o, hrun, (hs.receives_iff hrun _).1 hreceives, ?_⟩
  intro f hf hname
  obtain ⟨t, ht⟩ := Pattern.exists_captured_of_run hrun hname
  obtain ⟨hkind, hrole, hfallback⟩ := hs.takes f hf hname
  refine ⟨t, ht, ?_⟩
  rw [hget f hf, Field.received?_of_captured hkind hrole hfallback ht]
  split <;> rfl

end RecordType

end DsnBinding
