import DsnBinding.Proofs.Dsn.Independence

/-!
What a parse that fails leaves behind. Nothing is written before the path has matched, whatever was
captured until then. Binding then writes field by field, in the order of declaration, so that a parse
that is interrupted at a field has changed fields declared in front of that one and nothing else; and
of a frozen record it changes nothing, as the first value that is to be written interrupts it.
-/
namespace DsnBinding

/-- The first name is declared strictly before the second. -/
def Declaration.DeclaresBefore (d : Declaration) (name name' : Text) : Prop :=
  d.names.idxOf name < d.names.idxOf name'

/-- A field fails with what it selects: the text cannot be converted, or the value that it receives
cannot be assigned. -/
inductive Field.FailsOn (f : Field) (contents : Contents) (record : Record) : BindingFailure → Prop
  | conversion {raw : Text} {cause : CoercionFailure} (hselect : f.select contents = .text raw)
      (hcoerce : f.coerce raw = .error cause) :
      FailsOn f contents record (cause.toBindingFailure f.name)
  | assignment {v : Value} {failure : BindingFailure} (hreceived : f.received? contents = some v)
      (hput : f.put record v = .error failure) : FailsOn f contents record failure

variable {d : Declaration} {f : Field} {fields : List Field} {contents : Contents}
  {record record' : Record} {name : Text}

theorem Record.get?_setAll_of_not_mem {changes : List (Text × Value)}
    (h : name ∉ changes.map Prod.fst) : (record.setAll changes).get? name = record.get? name := by
  have hnone : changes.filter (·.1 = name) = [] := by
    refine List.filter_eq_nil_iff.2 fun change hchange => ?_
    have hne : change.1 ≠ name := fun e => h (e ▸ List.mem_map_of_mem hchange)
    simpa using hne
  have hget := record.attributes.get?_insertAll changes name
  rw [hnone] at hget
  exact hget

theorem Declaration.declaresBefore_of_sublist {before behind : List Text} {name' : Text}
    (hdistinct : d.names.Nodup) (h : (before ++ name' :: behind).Sublist d.names)
    (hname : name ∈ before) : d.DeclaresBefore name name' := by
  obtain ⟨front, back, hnames, hfront, hback⟩ := List.append_sublist_iff.1 h
  have hmem : name ∈ front := hfront.subset hname
  have hmem' : name' ∈ back := hback.subset List.mem_cons_self
  have hnot : name' ∉ front := by
    intro hfound
    rw [hnames] at hdistinct
    exact (List.nodup_append.1 hdistinct).2.2 name' hfound name' hmem' rfl
  unfold DeclaresBefore
  rw [hnames, List.idxOf_append_of_mem hmem, List.idxOf_append_of_notMem hnot]
  have hlt := List.idxOf_lt_length_of_mem hmem
  omega

namespace Field

theorem failsOn_of_write {failure : BindingFailure}
    (h : f.write contents record = .error failure) : f.FailsOn contents record failure := by
  unfold write at h
  split at h
  · cases h
  · rename_i hselect
    exact .assignment (by rw [received?, hselect]) h
  · rename_i raw hselect
    split at h
    · rename_i v hcoerce
      exact .assignment (by simp only [received?, hselect, hcoerce, Except.toOption]) h
    · rename_i cause hcoerce
      obtain rfl := Except.error.inj h
      exact .conversion hselect hcoerce

/-- A field of a frozen type that does not fail receives nothing. -/
theorem changes_of_frozen (hfrozen : d.frozen = true) {changes : List (Text × Value)}
    (h : f.changes d contents = .ok changes) : changes = [] := by
  unfold Field.changes changeTo at h
  rw [if_pos hfrozen] at h
  split at h
  · exact (Except.ok.inj h).symm
  · cases h
  · split at h
    · rw [if_pos hfrozen] at h
      cases h
    · cases h

end Field

namespace Contents

theorem changes_of_frozen (hfrozen : d.frozen = true) : (contents.changes d fields).1 = [] := by
  induction fields with
  | nil => rfl
  | cons f rest ih =>
    unfold Contents.changes
    split
    · rfl
    · rename_i first hfirst
      rw [Field.changes_of_frozen hfrozen hfirst, ih, List.nil_append]

theorem get?_bind_of_not_mem (hrecord : record.IsOf d) (hnames : ∀ f ∈ fields, f.name ∈ d.names)
    (h : name ∉ fields.map Field.name) :
    (contents.bind fields record).1.get? name = record.get? name := by
  rw [bind_eq_changes hrecord hnames]
  refine Record.get?_setAll_of_not_mem fun hmem => ?_
  obtain ⟨change, hchange, rfl⟩ := List.mem_map.1 hmem
  exact h (names_of_mem_changes hchange)

/-- Binding that fails stops at a field that fails, with what binding the fields in front of it leaves:
only these have changed. -/
theorem stops_at_field (hdistinct : d.names.Nodup) (hrecord : record.IsOf d)
    (hsublist : (fields.map Field.name).Sublist d.names) {cause : BindingFailure}
    (h : contents.bind fields record = (record', some cause)) :
    ∃ before f behind, fields = before ++ f :: behind ∧
      contents.bind before record = (record', none) ∧ f.FailsOn contents record' cause ∧
      ∀ name, record'.get? name ≠ record.get? name →
        name ∈ before.map Field.name ∧ d.DeclaresBefore name f.name := by
  obtain ⟨before, f, behind, rfl, hbefore, hf⟩ := bind_eq_some.1 h
  rw [List.map_append, List.map_cons] at hsublist
  have hnames : ∀ g ∈ before, g.name ∈ d.names := fun g hg =>
    hsublist.subset (List.mem_append_left _ (List.mem_map_of_mem hg))
  refine ⟨before, f, behind, rfl, hbefore, Field.failsOn_of_write hf, ?_⟩
  intro name hchanged
  have hname : name ∈ before.map Field.name := by
    refine Classical.byContradiction fun hnot => hchanged ?_
    have hkept : (contents.bind before record).1.get? name = record.get? name :=
      get?_bind_of_not_mem hrecord hnames hnot
    rwa [hbefore] at hkept
  exact ⟨hname, Declaration.declaresBefore_of_sublist hdistinct hsublist hname⟩

end Contents

theorem Schema.read_of_run {s : Schema} {text : Text} {o : Outcome}
    (h : s.pattern.run (text.before '?') = .ok o) :
    s.read text = .ok ⟨o.captures, o.scheme, Query.parse (text.after '?')⟩ := by
  simp only [read, Query.extract, h]

namespace RecordType

variable {s : Schema} {text : Text} {failure : ParseFailure}

theorem parse_of_run_eq_error {halt : Halt} (hschema : Schema.ofRecordType (.declared d) = .ok s)
    (hrun : s.pattern.run (text.before '?') = .error halt) :
    ((RecordType.declared d).parse record text).1 = record := by
  cases hread : s.read text with
  | error failure => rw [parse_of_read_eq_error hschema hread]
  | ok contents =>
    obtain ⟨o, ho, -⟩ := Schema.read_eq_ok hread
    rw [hrun] at ho
    cases ho

theorem bind_of_parse (hschema : Schema.ofRecordType (.declared d) = .ok s)
    (hread : s.read text = .ok contents)
    (h : (RecordType.declared d).parse record text = (record', some failure)) :
    ∃ cause, contents.bind s.fields record = (record', some cause) ∧
      failure = s.bindingFailure text cause := by
  simp only [parse, parseWith, hschema, Schema.parse, hread] at h
  obtain ⟨hrecord', hfailure⟩ := Prod.mk.inj h
  obtain ⟨cause, hcause, rfl⟩ := Option.map_eq_some_iff.1 hfailure
  exact ⟨cause, Prod.ext hrecord' hcause, rfl⟩

theorem parse_of_frozen (hfrozen : d.frozen = true) (hrecord : record.IsOf d) :
    ((RecordType.declared d).parse record text).1 = record := by
  cases hschema : Schema.ofRecordType (.declared d) with
  | error failure => rw [parse_of_schema_eq_error hschema]
  | ok s =>
    cases hread : s.read text with
    | error failure => rw [parse_of_read_eq_error hschema hread]
    | ok contents =>
      rw [parse_eq_changes hschema hrecord hread, Contents.changes_of_frozen hfrozen]
      rfl

/-- A parse that fails has changed nothing if the type has no schema or the path does not match, as
in every refusal in which the template or the match is to blame. Otherwise it has stopped at a field
that fails, and has changed only fields that are declared strictly before this one. So it has never
changed a frozen record. -/
theorem parse_interrupted (hdistinct : d.names.Nodup) (hrecord : record.IsOf d)
    (h : (RecordType.declared d).parse record text = (record', some failure)) :
    (∀ cause, Schema.ofRecordType (.declared d) = .error cause → record' = record) ∧
      (∀ s halt, Schema.ofRecordType (.declared d) = .ok s →
        s.pattern.run (text.before '?') = .error halt → record' = record) ∧
      (∀ e, failure = .refused e → e.stage = .compiling ∨ e.stage = .matching →
        record' = record) ∧
      (∀ s o, Schema.ofRecordType (.declared d) = .ok s →
        s.pattern.run (text.before '?') = .ok o →
        ∃ before f behind cause, s.fields = before ++ f :: behind ∧
          f.FailsOn ⟨o.captures, o.scheme, Query.parse (text.after '?')⟩ record' cause ∧
          failure = s.bindingFailure text cause ∧
          ∀ name, record'.get? name ≠ record.get? name →
            name ∈ before.map Field.name ∧ d.DeclaresBefore name f.name) ∧
      (d.frozen = true → record' = record) := by
  have hresult : ((RecordType.declared d).parse record text).1 = record' := congrArg Prod.fst h
  have hschemaless : ∀ cause, Schema.ofRecordType (.declared d) = .error cause →
      record' = record := by
    intro cause hschema
    rw [← hresult, parse_of_schema_eq_error hschema]
  have hmismatch : ∀ s halt, Schema.ofRecordType (.declared d) = .ok s →
      s.pattern.run (text.before '?') = .error halt → record' = record := by
    intro s halt hschema hrun
    rw [← hresult, parse_of_run_eq_error hschema hrun]
  refine ⟨hschemaless, hmismatch, ?_, ?_, ?_⟩
  · rintro e rfl hstage
    cases hschema : Schema.ofRecordType (.declared d) with
    | error cause => exact hschemaless cause hschema
    | ok s =>
      cases hrun : s.pattern.run (text.before '?') with
      | error halt => exact hmismatch s halt hschema hrun
      | ok o =>
        -- A failure to bind blames a conversion or an assignment.
        obtain ⟨cause, -, hfailure⟩ := bind_of_parse hschema (Schema.read_of_run hrun) h
        cases cause with
        | refused error =>
          obtain rfl := ParseFailure.refused.inj hfailure
          cases error <;> simp [ParseError.stage, StageError.stage] at hstage
        | unfit _ | tooManyDigits _ | noConversion => cases hfailure
  · intro s o hschema hrun
    obtain ⟨cause, hbind, hfailure⟩ := bind_of_parse hschema (Schema.read_of_run hrun) h
    obtain ⟨before, f, behind, hfields, -, hf, hchanged⟩ := Contents.stops_at_field hdistinct
      hrecord (Schema.isOf_of_ofRecordType hschema).names hbind
    exact ⟨before, f, behind, cause, hfields, hf, hfailure, hchanged⟩
  · intro hfrozen
    rw [← hresult, parse_of_frozen hfrozen hrecord]

/-- The host has changed when the port is refused, but not when the path does not match, although it
was captured by then. -/
theorem parse_interrupted_bad_port :
    let template : Text := ['$', 'H', ':', '$', 'P']
    let d : Declaration :=
      ⟨['D'], some (.text template), false,
        [⟨['h'], .text [], .named .string, none⟩, ⟨['p'], .int 0, .named .integer, none⟩]⟩
    let s : Schema :=
      ⟨['D'], template,
        ⟨template, [.capture ['H'] [[':']] 0, .literal [':'], .capture ['P'] [] 3]⟩,
        [.create .string ['h'] [] none none, .create .integer ['p'] [] none none]⟩
    let record : Record := ⟨['D'], .declared false true, ⟨[(['h'], .text []), (['p'], .int 0)]⟩⟩
    let record' : Record := record.set ['h'] (.text ['a'])
    let o : Outcome := ⟨⟨[(['H'], ['a']), (['P'], ['x'])]⟩, [], 3, 1⟩
    let halt : Halt := ⟨⟨2, [], ⟨[(['H'], ['a', 'b'])]⟩, 0⟩, .mismatch (.literal 2 [':'])⟩
    d.names.Nodup ∧ record.IsOf d ∧ Schema.ofRecordType (.declared d) = .ok s ∧
      s.pattern.run ['a', ':', 'x'] = .ok o ∧ s.pattern.run ['a', 'b'] = .error halt ∧
      ((RecordType.declared d).parse record ['a', ':', 'x']).1 = record' ∧
      (∃ f ∈ s.fields, d.DeclaresBefore ['h'] f.name ∧
        ∃ cause, f.FailsOn ⟨o.captures, o.scheme, .empty⟩ record' cause) ∧
      ((RecordType.declared d).parse record ['a', 'b']).1 = record := by
  intro template d s record record' o halt
  have hdistinct : d.names.Nodup := by decide
  have hrecord : record.IsOf d := ⟨rfl, rfl, rfl⟩
  have hschema : Schema.ofRecordType (.declared d) = .ok s := rfl
  have hrun : s.pattern.run ['a', ':', 'x'] = .ok o := rfl
  have hhalt : s.pattern.run ['a', 'b'] = .error halt := rfl
  have hparse : (RecordType.declared d).parse record ['a', ':', 'x'] =
      (record', some (.refused ⟨.binding (.coercion ['p']
        ⟨.integer, ['P'], ['x'], FieldKind.integer.label⟩), ['a', ':', 'x'], .text template⟩)) := rfl
  have hparse' : (RecordType.declared d).parse record ['a', 'b'] =
      (((RecordType.declared d).parse record ['a', 'b']).1,
        some (.refused ⟨.noMatch ⟨template, ['a', 'b'], .literal 2 [':']⟩, ['a', 'b'],
          .text template⟩)) := rfl
  obtain ⟨-, -, -, hlater, -⟩ := parse_interrupted hdistinct hrecord hparse
  obtain ⟨before, f, behind, cause, hfields, hf, -, hchanged⟩ := hlater s o hschema hrun
  obtain ⟨-, hmatching, -⟩ := parse_interrupted hdistinct hrecord hparse'
  have hmem : f ∈ s.fields := hfields ▸ List.mem_append_right before List.mem_cons_self
  exact ⟨hdistinct, hrecord, hschema, hrun, hhalt, rfl,
    ⟨f, hmem, (hchanged ['h'] (by decide)).2, cause, hf⟩, hmatching s halt hschema hhalt⟩

end RecordType

end DsnBinding
