import DsnBinding.Proofs.Binding
import DsnBinding.Proofs.Dsn.Parsing
import DsnBinding.Proofs.Schema

/-!
What becomes of a captured text. The fields that a variable feeds each decide on their own: one with
the role of the parameters takes all of them, one with the role of the scheme prefers the scheme that
was matched, and every other one takes the captured text if it is not empty.
-/
namespace DsnBinding

namespace Contents

variable {d : Declaration} {contents : Contents} {fields : List Field} {record record' : Record}

theorem holds_of_select (hrecord : record.IsOf d) (hnames : ∀ f ∈ fields, f.name ∈ d.names)
    (hnodup : (fields.map Field.name).Nodup)
    (h : contents.bind fields record = (record', none)) {f : Field} (hf : f ∈ fields) {raw : Text}
    (hraw : f.select contents = .text raw) :
    ∃ v, f.coerce raw = .ok v ∧ record'.get? f.name = some v := by
  obtain ⟨v, hv⟩ := coerce_of_bind h hf hraw
  have hget := (get?_of_bind hrecord hnames hnodup h).1 f hf
  have hreceived : f.received? contents = some v := by
    simp only [Field.received?, hraw, hv, Except.toOption]
  rw [hreceived, Option.some_or] at hget
  exact ⟨v, hv, hget⟩

theorem holds_of_isParams (hrecord : record.IsOf d) (hnames : ∀ f ∈ fields, f.name ∈ d.names)
    (hnodup : (fields.map Field.name).Nodup)
    (h : contents.bind fields record = (record', none)) {f : Field} (hf : f ∈ fields)
    (hparams : f.isParams = true) : record'.get? f.name = some (.ofQuery contents.query) := by
  have hget := (get?_of_bind hrecord hnames hnodup h).1 f hf
  have hreceived : f.received? contents = some (.ofQuery contents.query) := by
    simp only [Field.received?, Field.select_of_isParams hparams]
  rwa [hreceived, Option.some_or] at hget

end Contents

namespace RecordType

variable {d : Declaration} {s : Schema} {record record' : Record} {text : Text}

/-- A captured text that is not empty reaches each field of its variable, except for those that take
the parameters and for those that take a scheme that was matched. -/
theorem parse_holds_captured (hdistinct : d.names.Nodup)
    (hschema : Schema.ofRecordType (.declared d) = .ok s) (hrecord : record.IsOf d)
    (h : (RecordType.declared d).parse record text = (record', none)) :
    ∃ o, s.pattern.run (text.before '?') = .ok o ∧
      ∀ name ∈ s.pattern.names, ∀ captured, o.captures.get? name = some captured →
        captured ≠ [] → s.fieldsFor name ≠ [] ∧ ∀ f ∈ s.fieldsFor name,
          (f.isParams = true →
            record'.get? f.name = some (.ofQuery (Query.parse (text.after '?')))) ∧
          (f.isScheme = true → o.scheme ≠ [] →
            ∃ v, f.coerce o.scheme = .ok v ∧ record'.get? f.name = some v) ∧
          (f.isParams = false → (f.isScheme = true → o.scheme = []) →
            ∃ v, f.coerce captured = .ok v ∧ record'.get? f.name = some v) := by
  have hd := Schema.isOf_of_ofRecordType hschema
  have hnames : ∀ f ∈ s.fields, f.name ∈ d.names :=
    fun f hf => hd.names.subset (List.mem_map_of_mem hf)
  have hnodup := hdistinct.sublist hd.names
  simp only [parse, parseWith, hschema] at h
  obtain ⟨contents, hread, hbind⟩ := Schema.parse_eq_none h
  obtain ⟨o, hrun, rfl⟩ := Schema.read_eq_ok hread
  refine ⟨o, hrun, ?_⟩
  intro name hname captured hcaptured hne
  refine ⟨?_, ?_⟩
  · obtain ⟨f, hf, hvariable⟩ := hd.fed name hname
    exact List.ne_nil_of_mem (Schema.mem_fieldsFor.2 ⟨hf, hvariable⟩)
  · intro f hmem
    obtain ⟨hf, rfl⟩ := Schema.mem_fieldsFor.1 hmem
    refine ⟨?_, ?_, ?_⟩
    · exact Contents.holds_of_isParams hrecord hnames hnodup hbind hf
    · intro hscheme hmatched
      exact Contents.holds_of_select hrecord hnames hnodup hbind hf
        (Field.select_of_isScheme hscheme hmatched)
    · intro hparams hscheme
      exact Contents.holds_of_select hrecord hnames hnodup hbind hf
        (Field.select_of_not_empty hparams hscheme hne hcaptured)

/-- A variable that feeds two fields of different kinds, one of them with the role of the scheme,
which no text is matched for. -/
theorem parse_holds_captured_twice :
    let template : Text := ['$', 'P', ':', '$', 'H']
    let metadata : Datum := .object [(Metadata.variableKey, .text ['P'])]
    let d : Declaration :=
      ⟨['D'], some (.text template), false,
        [⟨['p'], .int 0, .named .integer, none⟩, ⟨['h'], .text [], .named .string, none⟩,
          ⟨Role.scheme.label, .text [], .named .string, some metadata⟩]⟩
    let s : Schema :=
      ⟨['D'], template,
        ⟨template, [.capture ['P'] [[':']] 0, .literal [':'], .capture ['H'] [] 3]⟩,
        [.create .integer ['p'] [] none none, .create .string ['h'] [] none none,
          .create .string Role.scheme.label ['P'] none (some .scheme)]⟩
    let record : Record :=
      ⟨['D'], .declared false true,
        ⟨[(['p'], .int 0), (['h'], .text []), (Role.scheme.label, .text [])]⟩⟩
    let record' : Record :=
      ⟨['D'], .declared false true,
        ⟨[(['p'], .int 7), (['h'], .text ['x']), (Role.scheme.label, .text ['7'])]⟩⟩
    let text : Text := ['7', ':', 'x']
    d.names.Nodup ∧ Schema.ofRecordType (.declared d) = .ok s ∧ record.IsOf d ∧
      (RecordType.declared d).parse record text = (record', none) ∧
      (s.fieldsFor ['P']).length = 2 ∧ ∀ f ∈ s.fieldsFor ['P'], ∃ v,
        f.coerce ['7'] = .ok v ∧ record'.get? f.name = some v := by
  intro template metadata d s record record' text
  have hschema : Schema.ofRecordType (.declared d) = .ok s := rfl
  have hrecord : record.IsOf d := ⟨rfl, rfl, rfl⟩
  have hparse : (RecordType.declared d).parse record text = (record', none) := rfl
  have hdistinct : d.names.Nodup := by decide
  obtain ⟨o, hrun, hholds⟩ := parse_holds_captured hdistinct hschema hrecord hparse
  have ho : s.pattern.run text = .ok ⟨⟨[(['P'], ['7']), (['H'], ['x'])]⟩, [], 3, 1⟩ := rfl
  obtain rfl := Except.ok.inj (ho.symm.trans hrun)
  obtain ⟨-, hfields⟩ := hholds ['P'] (by decide) ['7'] rfl (by decide)
  have hparams : ∀ f ∈ s.fieldsFor ['P'], f.isParams = false := by decide
  exact ⟨hdistinct, hschema, hrecord, hparse, rfl,
    fun f hf => (hfields f hf).2.2 (hparams f hf) fun _ => rfl⟩

/-- Captured texts that no field holds: the one field takes the scheme that was matched, and the
other one takes the parameters, of which there are none. -/
theorem parse_drops_captured :
    let https : Text := ['h', 't', 't', 'p', 's']
    let redis : Text := ['r', 'e', 'd', 'i', 's']
    let schemeVariable : Text := ['S', 'c', 'h', 'e', 'm', 'e']
    let paramsVariable : Text := ['P', 'a', 'r', 'a', 'm', 's']
    let template : Text :=
      https ++ schemeMark ++ '$' :: schemeVariable ++ '/' :: '$' :: paramsVariable
    let d : Declaration :=
      ⟨['S'], some (.text template), false,
        [⟨Role.scheme.label, .text [], .named .string, none⟩,
          ⟨Role.params.label, .map [], .named .dict, none⟩]⟩
    let s : Schema :=
      ⟨['S'], template,
        ⟨template, [.literal (https ++ schemeMark), .capture schemeVariable [['/']] 8,
          .literal ['/'], .capture paramsVariable [] 16]⟩,
        [.create .string Role.scheme.label [] none (some .scheme),
          .create .map Role.params.label [] none (some .params)]⟩
    let record : Record :=
      ⟨['S'], .declared false true, ⟨[(Role.scheme.label, .text []), (Role.params.label, .map [])]⟩⟩
    let record' : Record :=
      ⟨['S'], .declared false true,
        ⟨[(Role.scheme.label, .text https), (Role.params.label, .map [])]⟩⟩
    let text : Text := https ++ schemeMark ++ redis ++ ['/', 'a']
    let o : Outcome := ⟨⟨[(schemeVariable, redis), (paramsVariable, ['a'])]⟩, https, 15, 2⟩
    d.names.Nodup ∧ Schema.ofRecordType (.declared d) = .ok s ∧ record.IsOf d ∧
      (RecordType.declared d).parse record text = (record', none) ∧
      s.pattern.run (text.before '?') = .ok o ∧
      ∀ name ∈ s.pattern.names, ∃ captured, o.captures.get? name = some captured ∧
        captured ≠ [] ∧
        ¬ ∃ f ∈ s.fieldsFor name, ∃ v, f.coerce captured = .ok v ∧ record'.get? f.name = some v := by
  intro https redis schemeVariable paramsVariable template d s record record' text o
  have hscheme : s.fieldsFor schemeVariable =
      [.create .string Role.scheme.label [] none (some .scheme)] := rfl
  have hparams : s.fieldsFor paramsVariable =
      [.create .map Role.params.label [] none (some .params)] := rfl
  have hschema : Schema.ofRecordType (.declared d) = .ok s := rfl
  have hparse : (RecordType.declared d).parse record text = (record', none) := by
    rw [parse, hschema]
    rfl
  have hrun : s.pattern.run (text.before '?') = .ok o := rfl
  refine ⟨by decide, hschema, ⟨rfl, rfl, rfl⟩, hparse, hrun, ?_⟩
  intro name hname
  rcases List.mem_cons.1 hname with rfl | hname
  · refine ⟨redis, rfl, by decide, ?_⟩
    intro hsome
    obtain ⟨f, hf, v, hcoerce, hget⟩ := hsome
    rw [hscheme] at hf
    obtain rfl := List.mem_singleton.1 hf
    obtain rfl : Value.text redis = v := Except.ok.inj hcoerce
    exact absurd hget (by decide)
  · obtain rfl := List.mem_singleton.1 hname
    refine ⟨['a'], rfl, by decide, ?_⟩
    intro hsome
    obtain ⟨f, hf, v, hcoerce, hget⟩ := hsome
    rw [hparams] at hf
    obtain rfl := List.mem_singleton.1 hf
    obtain rfl : Value.map [(['a'], .text [])] = v := Except.ok.inj hcoerce
    exact absurd hget (by decide)

end RecordType

end DsnBinding
