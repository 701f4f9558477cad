import DsnBinding.Dsn.Parsing
import DsnBinding.Proofs.Binding
import DsnBinding.Proofs.Conversion
import DsnBinding.Proofs.Pattern.Compiled
import DsnBinding.Proofs.Pattern.Halting
import DsnBinding.Proofs.Query.RoundTrip
import DsnBinding.Proofs.Schema.Building

/-!
How parsing fails, in whatever way attributes are assigned. A stage that fails reports its error with
the whole text. A few failures escape instead: evaluating a reference in a type hint can raise an error
that is not about a missing name, what stands in place of a type can be too long for a message, a
numeral can have too many digits, and a rule of the type of the record can raise an error. Every other
failure that the parts of parsing can have is ruled out by the schema that they are used with.
-/
namespace DsnBinding

theorem Pattern.exists_mismatch {template text : Text} {p : Pattern} {halt : Halt}
    (hcompiled : compile template = .ok p) (h : p.run text = .error halt) :
    ∃ mismatch, halt.obstacle = .mismatch mismatch := by
  rcases consume_of_run_eq_error h with hconsume | ⟨s, -, -, rfl⟩
  · cases hobstacle : halt.obstacle with
    | mismatch mismatch => exact ⟨mismatch, rfl⟩
    | bareSegment =>
      exact absurd (Segments.bare_of_halt hconsume hobstacle) (bare_not_mem_leaves hcompiled)
  · exact ⟨_, rfl⟩

/-- Writing a field fails without a refusal: the selected text is a numeral with too many digits, or a
rule of the record raises an error at the value that the field receives. -/
inductive Field.Escapes (f : Field) (contents : Contents) (record : Record) (assign : Assignment) :
    BindingFailure → Prop
  | digits {raw : Text} {n : Numeral} (hkind : f.kind = .integer)
      (hselect : f.select contents = .text raw) (hread : Numeral.read? raw = some n)
      (hlong : Numeral.digitLimit < n.digits.length) :
      Escapes f contents record assign (.tooManyDigits n.digits.length)
  | rule {v : Value} {error : UnfitValue} (hreceived : f.received? contents = some v)
      (h : assign record f.name v = .error (.unfit error)) :
      Escapes f contents record assign (.unfit error)

/-- Binding writes all fields in front of one, and the record is another then. -/
def Contents.Reaches (contents : Contents) (assign : Assignment) (fields : List Field)
    (record : Record) (f : Field) (record' : Record) : Prop :=
  ∃ before behind, fields = before ++ f :: behind ∧
    contents.bind before record assign = (record', none)

/-- Parsing fails without a refusal. -/
inductive RecordType.Escapes (type : RecordType) (record : Record) (text : Text)
    (assign : Assignment) : ParseFailure → Prop
  | evaluation {d : Declaration} {template : Text} {error : UnusableReference}
      (hd : type = .declared d) (htemplate : d.template = some (.text template))
      (h : d.FirstUnresolved (.unusable error)) : Escapes type record text assign (.unusable error)
  | unshown {v : Value} (hv : type = .value v) (h : v.isTooLong = true) :
      Escapes type record text assign .unshown
  | binding {s : Schema} {contents : Contents} {f : Field} {record' : Record}
      {failure : BindingFailure} (hschema : Schema.ofRecordType type = .ok s)
      (hread : s.read text = .ok contents)
      (hreaches : contents.Reaches assign s.fields record f record')
      (h : f.Escapes contents record' assign failure) :
      Escapes type record text assign (s.bindingFailure text failure)

/-- What a stage of parsing reports: the type has no schema, the path does not match, or a field is
refused. -/
inductive RecordType.Reports (type : RecordType) (record : Record) (text : Text)
    (assign : Assignment) : StageError → Prop
  | schema {error : SchemaError} (h : Schema.ofRecordType type = .error (.refused error)) :
      Reports type record text assign (.schema error)
  | noMatch {s : Schema} {halt : Halt} {mismatch : Mismatch}
      (hschema : Schema.ofRecordType type = .ok s)
      (hrun : s.pattern.run (text.before '?') = .error halt)
      (hobstacle : halt.obstacle = .mismatch mismatch) :
      Reports type record text assign (.noMatch ⟨s.pattern.template, text.before '?', mismatch⟩)
  | binding {s : Schema} {contents : Contents} {record' : Record} {error : BindingError}
      (hschema : Schema.ofRecordType type = .ok s) (hread : s.read text = .ok contents)
      (hbind : contents.bind s.fields record assign = (record', some (.refused error))) :
      Reports type record text assign (.binding error)

variable {assign : Assignment}

namespace Field

variable {d : Declaration} {f : Field} {contents : Contents} {record : Record}

theorem put_eq_error {v : Value} {failure : BindingFailure}
    (h : f.put record v assign = .error failure) :
    (∃ error, failure = .refused error) ∨
      ∃ error, failure = .unfit error ∧ assign record f.name v = .error (.unfit error) := by
  unfold put at h
  split at h
  · cases h
  · exact Or.inl ⟨_, (Except.error.inj h).symm⟩
  · rename_i error hassign
    exact Or.inr ⟨error, (Except.error.inj h).symm, hassign⟩

/-- A field that is not written is refused, or its failure escapes. -/
theorem write_eq_error {failure : BindingFailure} (hkind : f.kind ≠ .untyped)
    (h : f.write contents record assign = .error failure) :
    (∃ error, failure = .refused error) ∨ f.Escapes contents record assign failure := by
  have hput : ∀ v, f.received? contents = some v → f.put record v assign = .error failure →
      (∃ error, failure = .refused error) ∨ f.Escapes contents record assign failure := by
    intro v hreceived hput
    rcases put_eq_error hput with hrefused | ⟨error, rfl, hassign⟩
    · exact Or.inl hrefused
    · exact Or.inr (.rule hreceived hassign)
  unfold write at h
  split at h
  · cases h
  · rename_i hselect
    exact hput _ (by rw [received?, hselect]) h
  · rename_i raw hselect
    split at h
    · rename_i v hcoerce
      exact hput v (by simp only [received?, hselect, hcoerce, Except.toOption]) h
    · rename_i cause hcoerce
      obtain rfl := Except.error.inj h
      rcases coerce_eq_error hkind hcoerce with rfl | ⟨hinteger, n, hread, hlong, rfl⟩
      · exact Or.inl ⟨_, rfl⟩
      · exact Or.inr (.digits hinteger hselect hread hlong)

theorem Escapes.write_eq {failure : BindingFailure} (h : f.Escapes contents record assign failure) :
    f.write contents record assign = .error failure := by
  cases h with
  | @digits raw n hkind hselect hread hlong =>
    have hcoerce : f.coerce raw = .error (.tooManyDigits n.digits.length) := by
      simp only [coerce, hkind, hread, if_neg (Nat.not_le.2 hlong)]
    simp only [write, hselect, hcoerce, CoercionFailure.toBindingFailure]
  | @rule v error hreceived h =>
    have hput : f.put record v assign = .error (.unfit error) := by simp only [put, h]
    cases hselect : f.select contents with
    | nothing => simp [received?, hselect] at hreceived
    | parameters =>
      obtain rfl : Value.ofQuery contents.query = v := by simpa [received?, hselect] using hreceived
      simp only [write, hselect, hput]
    | text raw =>
      cases hcoerce : f.coerce raw with
      | error failure => simp [received?, hselect, hcoerce, Except.toOption] at hreceived
      | ok v' =>
        obtain rfl : v' = v := by
          simpa [received?, hselect, hcoerce, Except.toOption] using hreceived
        simp only [write, hselect, hcoerce, hput]

theorem Escapes.ne_unfit {error : UnfitValue} (hrecord : record.IsOf d) (hname : f.name ∈ d.names) :
    ¬ f.Escapes contents record Record.assign (.unfit error) := by
  intro h
  cases h with
  | @rule v _ _ h =>
    rcases f.put_cases hrecord hname v with hok | hrefused
    · simp [put, h] at hok
    · simp [put, h] at hrefused

end Field

namespace Schema

variable {s : Schema} {type : RecordType} {text : Text}

theorem read_eq_error {failure : ParseFailure}
    (hcompiled : Pattern.compile s.template = .ok s.pattern) (h : s.read text = .error failure) :
    ∃ halt mismatch, s.pattern.run (text.before '?') = .error halt ∧
      halt.obstacle = .mismatch mismatch ∧
      failure = .refused ⟨.noMatch ⟨s.pattern.template, text.before '?', mismatch⟩, text,
        .text s.template⟩ := by
  unfold read at h
  dsimp only [Query.extract] at h
  split at h
  · cases h
  · rename_i halt hrun
    obtain ⟨mismatch, hobstacle⟩ := Pattern.exists_mismatch hcompiled hrun
    rw [hobstacle] at h
    exact ⟨halt, mismatch, hrun, hobstacle, (Except.error.inj h).symm⟩

theorem ofRecordType_eq_unusable {error : UnusableReference} :
    ofRecordType type = .error (.unusable error) ↔ ∃ d template, type = .declared d ∧
      d.template = some (.text template) ∧ d.FirstUnresolved (.unusable error) := by
  constructor
  · intro h
    cases builds_of_eq h with
    | unusable ht h => exact ⟨_, _, rfl, ht, h⟩
  · rintro ⟨d, template, rfl, ht, h⟩
    exact Builds.eq (.unusable ht h)

theorem ofRecordType_eq_unshown :
    ofRecordType type = .error .unshown ↔ ∃ v, type = .value v ∧ v.isTooLong = true := by
  constructor
  · intro h
    cases builds_of_eq h with
    | unshown hlong => exact ⟨_, rfl, hlong⟩
  · rintro ⟨v, rfl, h⟩
    exact Builds.eq (.unshown h)

end Schema

namespace RecordType

variable {type : RecordType} {record : Record} {text : Text}

theorem exists_declaration {s : Schema} (h : Schema.ofRecordType type = .ok s) :
    ∃ d, type = .declared d := by
  cases Schema.builds_of_eq h with
  | schema _ _ _ _ _ => exact ⟨_, rfl⟩

theorem Escapes.ne_refused {failure : ParseFailure} (h : type.Escapes record text assign failure)
    (e : ParseError) : failure ≠ .refused e := by
  cases h with
  | evaluation _ _ _ | unshown _ _ => exact nofun
  | binding _ _ _ h => cases h <;> exact nofun

theorem parse_of_schema {s : Schema} (hschema : Schema.ofRecordType type = .ok s) :
    (type.parse record text assign).2 = none ∨
      (∃ e, (type.parse record text assign).2 = some (.refused e) ∧ e.text = text ∧
        type.Reports record text assign e.error) ∨
      ∃ failure, (type.parse record text assign).2 = some failure ∧
        type.Escapes record text assign failure := by
  obtain ⟨d, rfl⟩ := exists_declaration hschema
  have hd := Schema.isOf_of_ofRecordType hschema
  simp only [parse, parseWith, hschema, Schema.parse]
  cases hread : s.read text with
  | error failure =>
    obtain ⟨halt, mismatch, hrun, hobstacle, rfl⟩ := Schema.read_eq_error hd.compiled hread
    exact Or.inr (Or.inl ⟨_, rfl, rfl, .noMatch hschema hrun hobstacle⟩)
  | ok contents =>
    rcases hbind : contents.bind s.fields record assign with ⟨record', failure?⟩
    simp only [hbind]
    cases failure? with
    | none => exact Or.inl rfl
    | some failure =>
      obtain ⟨before, f, behind, hsplit, hbefore, hf⟩ := Contents.bind_eq_some.1 hbind
      have hmem : f ∈ s.fields := hsplit ▸ List.mem_append_right _ List.mem_cons_self
      rcases f.write_eq_error (Schema.kind_of_ofRecordType hschema f hmem) hf with
        ⟨error, rfl⟩ | hescapes
      · exact Or.inr (Or.inl ⟨_, rfl, rfl, .binding hschema hread hbind⟩)
      · exact Or.inr (Or.inr
          ⟨_, rfl, .binding hschema hread ⟨before, behind, hsplit, hbefore⟩ hescapes⟩)

/-- How parsing ends: with a record, with an error that a stage reports for the whole text, or with a
failure that escapes. -/
theorem parse_cases (type : RecordType) (record : Record) (text : Text) (assign : Assignment) :
    (type.parse record text assign).2 = none ∨
      (∃ e, (type.parse record text assign).2 = some (.refused e) ∧ e.text = text ∧
        type.Reports record text assign e.error) ∨
      ∃ failure, (type.parse record text assign).2 = some failure ∧
        type.Escapes record text assign failure := by
  cases hschema : Schema.ofRecordType type with
  | ok s => exact parse_of_schema hschema
  | error failure =>
    have hparse : (type.parse record text assign).2 = some (type.schemaFailure text failure) := by
      simp only [parse, parseWith, hschema]
    rw [hparse]
    cases failure with
    | refused error =>
      refine Or.inr (Or.inl ?_)
      cases error <;> exact ⟨_, rfl, rfl, .schema hschema⟩
    | unusable error =>
      obtain ⟨d, template, hd, ht, h⟩ := Schema.ofRecordType_eq_unusable.1 hschema
      exact Or.inr (Or.inr ⟨_, rfl, .evaluation hd ht h⟩)
    | unshown =>
      obtain ⟨v, hv, h⟩ := Schema.ofRecordType_eq_unshown.1 hschema
      exact Or.inr (Or.inr ⟨_, rfl, .unshown hv h⟩)

theorem Escapes.parse_eq {failure : ParseFailure} (h : type.Escapes record text assign failure) :
    (type.parse record text assign).2 = some failure := by
  cases h with
  | evaluation hd ht h =>
    simp only [parse, parseWith, Schema.ofRecordType_eq_unusable.2 ⟨_, _, hd, ht, h⟩, schemaFailure]
  | unshown hv h =>
    simp only [parse, parseWith, Schema.ofRecordType_eq_unshown.2 ⟨_, hv, h⟩, schemaFailure]
  | binding hschema hread hreaches h =>
    obtain ⟨before, behind, hsplit, hbefore⟩ := hreaches
    have hbind := Contents.bind_eq_some.2 ⟨before, _, behind, hsplit, hbefore, h.write_eq⟩
    simp only [parse, parseWith, hschema, Schema.parse, hread, hbind, Option.map_some]

/-- Parsing ends with a record or is refused unless a failure escapes. -/
theorem refused_or_none_iff :
    ((type.parse record text assign).2 = none ∨
        ∃ e, (type.parse record text assign).2 = some (.refused e)) ↔
      ∀ failure, ¬ type.Escapes record text assign failure := by
  constructor
  · intro hends failure h
    rcases hends with hnone | ⟨e, he⟩
    · cases hnone.symm.trans h.parse_eq
    · exact h.ne_refused e (Option.some.inj (h.parse_eq.symm.trans he))
  · intro hnone
    rcases parse_cases type record text assign with hrecord | ⟨e, he, -⟩ | ⟨failure, -, h⟩
    · exact Or.inl hrecord
    · exact Or.inr ⟨e, he⟩
    · exact absurd h (hnone failure)

theorem parse_eq_some_iff {failure : ParseFailure} (hfailure : ∀ e, failure ≠ .refused e) :
    (type.parse record text assign).2 = some failure ↔ type.Escapes record text assign failure := by
  refine ⟨fun h => ?_, Escapes.parse_eq⟩
  rcases parse_cases type record text assign with hnone | ⟨e, he, -⟩ |
    ⟨failure', hfailure', hescapes⟩
  · cases hnone.symm.trans h
  · exact absurd (Option.some.inj (h.symm.trans he)) (hfailure e)
  · exact Option.some.inj (hfailure'.symm.trans h) ▸ hescapes

theorem reports_of_refused {e : ParseError}
    (h : (type.parse record text assign).2 = some (.refused e)) :
    e.text = text ∧ type.Reports record text assign e.error := by
  rcases parse_cases type record text assign with hnone | ⟨e', he', hreports⟩ |
    ⟨failure, hfailure, hescapes⟩
  · cases hnone.symm.trans h
  · obtain rfl := ParseFailure.refused.inj (Option.some.inj (he'.symm.trans h))
    exact hreports
  · exact absurd (Option.some.inj (hfailure.symm.trans h)) (hescapes.ne_refused e)

theorem Escapes.ne_unfit {d : Declaration} {error : UnfitValue} (hrecord : record.IsOf d) :
    ¬ (RecordType.declared d).Escapes record text Record.assign (.unfit error) := by
  generalize hfailure : ParseFailure.unfit error = failure
  intro h
  cases h with
  | evaluation _ _ _ | unshown _ _ => cases hfailure
  | @binding s contents f record' failure hschema _ hreaches h =>
    obtain ⟨before, behind, hsplit, hbefore⟩ := hreaches
    have hd := Schema.isOf_of_ofRecordType hschema
    have hnames : ∀ f ∈ s.fields, f.name ∈ d.names :=
      fun f hf => hd.names.subset (List.mem_map_of_mem hf)
    have hrecord' := Contents.isOf_of_bind hrecord
      (fun g hg => hnames g (hsplit ▸ List.mem_append_left _ hg)) hbefore
    have hname := hnames f (hsplit ▸ List.mem_append_right _ List.mem_cons_self)
    cases h with
    | digits _ _ _ _ => cases hfailure
    | rule hreceived h => exact Field.Escapes.ne_unfit hrecord' hname (.rule hreceived h)

/-- How parsing fails, whatever the record and whatever the way to assign. It ends with the record or
is refused exactly if no failure escapes, and every failure but a refusal is one that escapes. A
refusal has the whole text and the error that a stage reports, and it names the stage by this error:
the compiling of the template, the match, the conversion of a text, and everything else as the
binding. With a plain record of the type, no error of a rule escapes. -/
theorem parse_refused_iff (type : RecordType) (record : Record) (text : Text)
    (assign : Assignment) :
    (((type.parse record text assign).2 = none ∨
        ∃ e, (type.parse record text assign).2 = some (.refused e)) ↔
      ∀ failure, ¬ type.Escapes record text assign failure) ∧
    (∀ failure, (∀ e, failure ≠ .refused e) →
      ((type.parse record text assign).2 = some failure ↔
        type.Escapes record text assign failure)) ∧
    (∀ e, (type.parse record text assign).2 = some (.refused e) →
      e.text = text ∧ type.Reports record text assign e.error ∧
        (e.stage = .compiling ↔ ∃ error, e.error = .schema (.template error)) ∧
        (e.stage = .matching ↔ ∃ error, e.error = .noMatch error) ∧
        (e.stage = .coercing ↔ ∃ field error, e.error = .binding (.coercion field error)) ∧
        (e.stage = .binding ↔
          (∃ error, e.error = .schema error ∧ ∀ fault, error ≠ .template fault) ∨
            ∃ field typeName error, e.error = .binding (.readOnly field typeName error))) ∧
    ∀ d, type = .declared d → record.IsOf d →
      ∀ error, ¬ type.Escapes record text Record.assign (.unfit error) := by
  refine ⟨refused_or_none_iff, fun _ => parse_eq_some_iff, ?_, ?_⟩
  · intro e he
    obtain ⟨htext, hreports⟩ := reports_of_refused he
    refine ⟨htext, hreports, ?_⟩
    obtain ⟨error, text, template⟩ := e
    unfold ParseError.stage
    cases error with
    | schema error => cases error <;> simp [StageError.stage]
    | noMatch error => simp [StageError.stage]
    | binding error => cases error <;> simp [StageError.stage]
  · rintro d rfl hrecord error
    exact Escapes.ne_unfit hrecord

/-- A text that is no number is refused by a field of integers, with the stage of the conversion. -/
theorem parse_refused_letter :
    let d : Declaration :=
      ⟨['D'], some (.text ['$', 'P']), false, [⟨['p'], .int 0, .named .integer, none⟩]⟩
    let record : Record := ⟨['D'], .declared false true, ⟨[(['p'], .int 0)]⟩⟩
    let text : Text := ['x']
    let e : ParseError :=
      ⟨.binding (.coercion ['p'] ⟨.integer, ['P'], text, FieldKind.integer.label⟩), text,
        .text ['$', 'P']⟩
    ((RecordType.declared d).parse record text).2 = some (.refused e) ∧
      (∀ failure, ¬ (RecordType.declared d).Escapes record text Record.assign failure) ∧
      e.text = text ∧ e.stage = .coercing := by
  intro d record text e
  have hparse : ((RecordType.declared d).parse record text).2 = some (.refused e) := rfl
  obtain ⟨hends, -, hreports, -⟩ := parse_refused_iff (.declared d) record text Record.assign
  obtain ⟨htext, -, -, -, hcoercing, -⟩ := hreports e hparse
  exact ⟨hparse, hends.1 (Or.inr ⟨e, hparse⟩), htext, hcoercing.2 ⟨_, _, rfl⟩⟩

-- A rule that takes no value raises its own error, which no stage reports.
example :
    let d : Declaration :=
      ⟨['D'], some (.text ['$', 'P']), false, [⟨['p'], .int 0, .named .integer, none⟩]⟩
    let record : Record := ⟨['D'], .declared false true, ⟨[(['p'], .int 0)]⟩⟩
    let error : UnfitValue := .raised ⟨"ValueError", "out of range"⟩
    ((RecordType.declared d).parse record ['8'] fun _ _ _ => .error (.unfit error)).2 =
      some (.unfit error) := rfl

/-- A text of ones is captured as a whole, and is a numeral with as many digits. -/
theorem escapes_of_ones {n : Nat} (h : Numeral.digitLimit < n) :
    (RecordType.declared
      ⟨['D'], some (.text ['$', 'P']), false, [⟨['p'], .int 0, .named .integer, none⟩]⟩).Escapes
      ⟨['D'], .declared false true, ⟨[(['p'], .int 0)]⟩⟩ (List.replicate n '1') Record.assign
      (.tooManyDigits n) := by
  obtain ⟨k, rfl⟩ : ∃ k, n = k + 1 := ⟨n - 1, by omega⟩
  generalize hones : (List.replicate (k + 1) '1' : Text) = ones
  have hlength : k + 1 = ones.length := by simp [← hones]
  have hread : Numeral.read? ones = some ⟨false, ones⟩ := by
    simp [← hones, List.replicate_succ, Numeral.read?, Numeral.ofDigits?]
  have hquestion : '?' ∉ ones := by simp [← hones, List.mem_replicate]
  have hextract : Query.extract ones = (ones, .empty) := by
    have hbefore : Text.before '?' ones = ones := by
      simpa [Text.before] using Text.before_append hquestion []
    have hafter : Text.after '?' ones = [] := by
      simpa [Text.after] using Text.after_append hquestion []
    rw [Query.extract, hbefore, hafter]
    rfl
  let s : Schema :=
    ⟨['D'], ['$', 'P'], ⟨['$', 'P'], [.capture ['P'] [] 0]⟩,
      [.create .integer ['p'] [] none none]⟩
  let contents : Contents := ⟨⟨[(['P'], ones)]⟩, [], .empty⟩
  have hrun : s.pattern.run ones = .ok ⟨contents.captures, [], ones.length, 0⟩ := by
    have hall : Text.upTo [] ones = ones :=
      ((Text.upTo_endsAtStop [] ones).behind.resolve_right (by simp))
    simp [Pattern.run, Pattern.lead, Pattern.body, s, Segment.isFixed, Segments.consume,
      Segment.consume, Cursor.start, Cursor.capture, Cursor.consume, hall, schemeOf, Text.includes,
      schemeMark, contents, OrderedMap.insert, OrderedMap.insertEntry, OrderedMap.empty]
  have hcontents : s.read ones = .ok contents := by
    rw [Schema.read, hextract]
    dsimp only
    rw [hrun]
  have hselect : (Field.create .integer ['p'] [] none none).select contents = .text ones :=
    Field.select_of_captured rfl (by simp [← hones]) rfl
  rw [hlength] at h ⊢
  have hschema : Schema.ofRecordType (.declared
      ⟨['D'], some (.text ['$', 'P']), false, [⟨['p'], .int 0, .named .integer, none⟩]⟩) = .ok s := rfl
  exact .binding hschema hcontents ⟨[], [], rfl, rfl⟩ (.digits rfl hselect hread h)

/-- A numeral with one digit too many is neither parsed nor refused. -/
theorem parse_too_many_digits :
    let d : Declaration :=
      ⟨['D'], some (.text ['$', 'P']), false, [⟨['p'], .int 0, .named .integer, none⟩]⟩
    let record : Record := ⟨['D'], .declared false true, ⟨[(['p'], .int 0)]⟩⟩
    let text : Text := List.replicate 4301 '1'
    record.IsOf d ∧ ((RecordType.declared d).parse record text).2 = some (.tooManyDigits 4301) ∧
      ¬ (((RecordType.declared d).parse record text).2 = none ∨
        ∃ e, ((RecordType.declared d).parse record text).2 = some (.refused e)) := by
  intro d record text
  have hescapes : (RecordType.declared d).Escapes record text Record.assign (.tooManyDigits 4301) :=
    escapes_of_ones (by decide)
  refine ⟨⟨rfl, rfl, rfl⟩, hescapes.parse_eq, ?_⟩
  rw [refused_or_none_iff]
  exact fun hnone => hnone _ hescapes

end RecordType

end DsnBinding
