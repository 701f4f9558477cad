import DsnBinding.Proofs.Dsn.Verbatim
import DsnBinding.Proofs.Dsn.Writing

/-!
What becomes of a parsed record that is formatted and parsed again. It is recovered exactly if the
output matches with the captures that it was written with. A text whose pieces are those that
formatting writes comes out as it was. Without choices, the pieces that were written have to be
found in the output; they are not if a group that was left out begins like what follows it. With
choices, an option can also be taken for a longer one.
-/
namespace DsnBinding

/-- The fields of the variables are empty in a new record. -/
def Schema.StartsEmpty (s : Schema) (fresh : Record) : Prop :=
  ∀ f ∈ s.fields, f.variableName ∈ s.pattern.names → fresh.get? f.name = some (.text [])

namespace RecordType

variable {d : Declaration} {s : Schema} {text output : Text} {record : Record} {filling : Filling}
  {o : Outcome}

theorem get?_of_parseNew (hs : s.IsVerbatim d)
    (hfresh : s.StartsEmpty (RecordType.declared d).fresh)
    (h : (RecordType.declared d).parseNew text = .ok record)
    (hrun : s.pattern.run (text.before '?') = .ok o) {f : Field} (hf : f ∈ s.fields)
    (hname : f.variableName ∈ s.pattern.names) :
    ∃ t, o.captures.get? f.variableName = some t ∧ record.get? f.name = some (.text t) := by
  obtain ⟨o', hrun', -, hget⟩ := exists_run_of_parseNew hs h
  obtain rfl := Except.ok.inj (hrun'.symm.trans hrun)
  obtain ⟨t, ht, hvalue⟩ := hget f hf hname
  refine ⟨t, ht, hvalue.trans ?_⟩
  split
  · rename_i hnil
    rw [hfresh f hf hname, hnil]
  · rfl

theorem captures_of_filling (hs : s.IsVerbatim d)
    (hfresh : s.StartsEmpty (RecordType.declared d).fresh)
    (h : (RecordType.declared d).parseNew text = .ok record)
    (hrun : s.pattern.run (text.before '?') = .ok o) (hfilling : s.filling record = .ok filling)
    {name : Text} (hname : name ∈ s.pattern.names) :
    o.captures.get? name = some (filling.text name) := by
  obtain ⟨f, hf, rfl⟩ := hs.isOf.fed name hname
  obtain ⟨t, ht, hvalue⟩ := get?_of_parseNew hs hfresh h hrun hf hname
  rw [hs.filling_text_eq hfilling hf hname hvalue, ht]

/-- A parsed record is recovered exactly if its output matches with the texts that it was written
with, and the fields beside the variables accept its scheme. -/
theorem recovers_iff_run (hs : s.IsVerbatim d)
    (hfresh : s.StartsEmpty (RecordType.declared d).fresh)
    (hparse : (RecordType.declared d).parseNew text = .ok record) :
    (RecordType.declared d).Recovers s record ↔ ∃ filling output o,
      s.filling record = .ok filling ∧ s.format record = .ok output ∧
        s.pattern.run (output.before '?') = .ok o ∧ s.Accepts o.scheme ∧
          ∀ name ∈ s.pattern.names, o.captures.get? name = some (filling.text name) := by
  constructor
  · intro hrecovers
    obtain ⟨output, record', hformat, hparse', heq⟩ := hrecovers
    have hformat := (format_eq_ok_iff hs.schema).1 hformat
    obtain ⟨filling, params, hfilling, -⟩ := Schema.format_eq_ok hformat
    obtain ⟨o, hrun, haccepts, -⟩ := exists_run_of_parseNew hs hparse'
    refine ⟨filling, output, o, hfilling, hformat, hrun, haccepts, ?_⟩
    intro name hname
    obtain ⟨f, hf, rfl⟩ := hs.isOf.fed name hname
    obtain ⟨t, ht, hvalue⟩ := get?_of_parseNew hs hfresh hparse' hrun hf hname
    rw [ht, hs.filling_text_eq hfilling hf hname ((heq f hf hname).symm.trans hvalue)]
  · intro hsome
    obtain ⟨filling, output, o, hfilling, hformat, hrun, haccepts, hcaptures⟩ := hsome
    obtain ⟨fresh, hcreate⟩ := exists_create_of_parseNew hparse
    obtain ⟨o₁, hrun₁, -⟩ := exists_run_of_parseNew hs hparse
    obtain ⟨record', hparse'⟩ := exists_parseNew hs hcreate hrun haccepts
    refine ⟨output, record', (format_eq_ok_iff hs.schema).2 hformat, hparse', ?_⟩
    intro f hf hname
    obtain ⟨t, ht, hvalue⟩ := get?_of_parseNew hs hfresh hparse' hrun hf hname
    obtain ⟨t₁, -, hvalue₁⟩ := get?_of_parseNew hs hfresh hparse hrun₁ hf hname
    rw [hcaptures _ hname, hs.filling_text_eq hfilling hf hname hvalue₁] at ht
    rw [hvalue, hvalue₁, Option.some.inj ht]

/-- A text whose pieces are those that formatting writes for its record comes out as it was, up to
the query, and the record is recovered. -/
theorem recovers_of_writes (hs : s.IsVerbatim d)
    (hfresh : s.StartsEmpty (RecordType.declared d).fresh)
    (hparse : (RecordType.declared d).parseNew text = .ok record)
    (hfilling : s.filling record = .ok filling) (hformat : s.format record = .ok output)
    {pieces : Pieces} (htext : Pieces.text pieces = text.before '?')
    (hwrites : Segments.Writes filling s.pattern.segments [] pieces) :
    output.before '?' = text.before '?' ∧ (RecordType.declared d).Recovers s record := by
  obtain ⟨o, hrun, haccepts, -⟩ := exists_run_of_parseNew hs hparse
  obtain ⟨filling', params, hfilling', rfl⟩ := Schema.format_eq_ok hformat
  obtain rfl := Except.ok.inj (hfilling'.symm.trans hfilling)
  have hpath : Segments.write filling' s.pattern.segments [] = text.before '?' := by
    rw [hwrites.write_eq, htext, List.nil_append]
  have hbefore : (Segments.write filling' s.pattern.segments [] ++
      Schema.querySuffix params).before '?' = text.before '?' := by
    rw [hpath, Schema.before_append_querySuffix (Text.not_mem_before '?' text)]
  refine ⟨hbefore, (recovers_iff_run hs hfresh hparse).2 ?_⟩
  refine ⟨filling', _, o, hfilling, hformat, ?_, haccepts, ?_⟩
  · rw [hbefore, hrun]
  · exact fun name hname => captures_of_filling hs hfresh hparse hrun hfilling hname

theorem question_not_mem_write (hs : s.IsVerbatim d)
    (hfresh : s.StartsEmpty (RecordType.declared d).fresh)
    (hparse : (RecordType.declared d).parseNew text = .ok record)
    (hfilling : s.filling record = .ok filling) (hchoices : s.pattern.segments.IsChoiceless) :
    '?' ∉ Segments.write filling s.pattern.segments [] := by
  obtain ⟨o, hrun, -⟩ := exists_run_of_parseNew hs hparse
  apply Segments.not_mem_write hchoices
  · exact fun _ htext => Pattern.question_not_mem_spelled hs.isOf.compiled hchoices htext
  · intro name hname hmem
    have hcaptured := captures_of_filling hs hfresh hparse hrun hfilling hname
    exact Text.not_mem_before '?' text ((Pattern.captured_infix_of_run hrun hcaptured).subset hmem)

/-- Without choices, a parsed record is recovered exactly if the pieces that were written are found
in the output: no other pieces hold the same texts, and the scheme is always that of the
template. -/
theorem recovers_iff_finds (hs : s.IsVerbatim d)
    (hfresh : s.StartsEmpty (RecordType.declared d).fresh)
    (hparse : (RecordType.declared d).parseNew text = .ok record)
    (hchoices : s.pattern.segments.IsChoiceless) :
    (RecordType.declared d).Recovers s record ↔ ∃ filling output pieces,
      s.filling record = .ok filling ∧ s.format record = .ok output ∧
        Segments.Finds s.pattern.segments (Segments.write filling s.pattern.segments []) pieces ∧
          Segments.Writes filling s.pattern.segments [] pieces := by
  have hpath : ∀ {filling output}, s.filling record = .ok filling → s.format record = .ok output →
      output.before '?' = Segments.write filling s.pattern.segments [] := by
    intro filling output hfilling hformat
    obtain ⟨filling', params, hfilling', rfl⟩ := Schema.format_eq_ok hformat
    obtain rfl := Except.ok.inj (hfilling'.symm.trans hfilling)
    exact Schema.before_append_querySuffix
      (question_not_mem_write hs hfresh hparse hfilling hchoices)
  rw [recovers_iff_run hs hfresh hparse]
  constructor
  · intro hsome
    obtain ⟨filling, output, o, hfilling, hformat, hrun, -, hcaptures⟩ := hsome
    rw [hpath hfilling hformat] at hrun
    obtain ⟨pieces, hfinds, htext, hvalues⟩ := Pattern.exists_finds_of_run hrun
    obtain ⟨-, hwrites⟩ := hfinds.derives.writes_of_values hchoices hs.names
      fun name hname => (hvalues name).symm.trans (hcaptures name hname)
    exact ⟨filling, output, pieces, hfilling, hformat, hfinds, hwrites (by rw [htext]) []⟩
  · intro hsome
    obtain ⟨filling, output, pieces, hfilling, hformat, hfinds, hwrites⟩ := hsome
    obtain ⟨o, hrun, hvalues⟩ := Pattern.exists_run_of_finds hfinds hwrites.write_eq.symm
    obtain ⟨o₁, hrun₁, haccepts, -⟩ := exists_run_of_parseNew hs hparse
    refine ⟨filling, output, o, hfilling, hformat, ?_, ?_, ?_⟩
    · rw [hpath hfilling hformat, hrun]
    · rw [Pattern.scheme_of_isChoiceless hchoices hrun,
        ← Pattern.scheme_of_isChoiceless hchoices hrun₁]
      exact haccepts
    · exact fun name hname => (hvalues name).trans (hwrites.value?_eq hfinds.derives hname)

/-- When a record that was parsed into empty fields survives formatting and parsing. It does exactly
if its output matches with the texts that it was written with, and the fields beside the variables
accept the scheme of the output. Without choices this comes down to the pieces that were written
being found in the output. A text whose own pieces are those that are written is given back. -/
theorem recovers_parsed_iff (hs : s.IsVerbatim d)
    (hfresh : s.StartsEmpty (RecordType.declared d).fresh)
    (hparse : (RecordType.declared d).parseNew text = .ok record) :
    ((RecordType.declared d).Recovers s record ↔ ∃ filling output o,
      s.filling record = .ok filling ∧ s.format record = .ok output ∧
        s.pattern.run (output.before '?') = .ok o ∧ s.Accepts o.scheme ∧
          ∀ name ∈ s.pattern.names, o.captures.get? name = some (filling.text name)) ∧
      (s.pattern.segments.IsChoiceless →
        ((RecordType.declared d).Recovers s record ↔ ∃ filling output pieces,
          s.filling record = .ok filling ∧ s.format record = .ok output ∧
            Segments.Finds s.pattern.segments (Segments.write filling s.pattern.segments [])
              pieces ∧
            Segments.Writes filling s.pattern.segments [] pieces)) ∧
      ∀ filling output pieces, s.filling record = .ok filling → s.format record = .ok output →
        Segments.Finds s.pattern.segments (text.before '?') pieces →
        Pieces.text pieces = text.before '?' →
        Segments.Writes filling s.pattern.segments [] pieces →
          output.before '?' = text.before '?' ∧ (RecordType.declared d).Recovers s record :=
  ⟨recovers_iff_run hs hfresh hparse, recovers_iff_finds hs hfresh hparse,
    fun _ _ _ hfilling hformat _ htext hwrites =>
      recovers_of_writes hs hfresh hparse hfilling hformat htext hwrites⟩

/-- A host without a port is recovered, beside a number that is never written. -/
theorem recovers_parsed_host :
    let template : Text := ['$', 'H', '[', ':', '$', 'P', ']']
    let d : Declaration :=
      ⟨['S'], some (.text template), false,
        [⟨['h'], .text [], .named .string, none⟩, ⟨['p'], .text [], .named .string, none⟩,
          ⟨['n'], .null, .named .integer, some (.object [(Metadata.defaultKey, .text ['7'])])⟩]⟩
    let s : Schema :=
      ⟨['S'], template,
        ⟨template, [.capture ['H'] [[':']] 0, .group [.literal [':'], .capture ['P'] [] 4]]⟩,
        [.create .string ['h'] [] none none, .create .string ['p'] [] none none,
          .create .integer ['n'] [] (some ['7']) none]⟩
    let record : Record :=
      ⟨['S'], .declared false true, ⟨[(['h'], .text ['a']), (['p'], .text []), (['n'], .int 7)]⟩⟩
    s.IsVerbatim d ∧ s.StartsEmpty (RecordType.declared d).fresh ∧
      (RecordType.declared d).parseNew ['a', ':'] = .ok record ∧
      (RecordType.declared d).Recovers s record := by
  intro template d s record
  have hs : s.IsVerbatim d :=
    ⟨rfl, by decide, rfl, by decide, by decide, by decide⟩
  have hfresh : s.StartsEmpty (RecordType.declared d).fresh := by
    unfold Schema.StartsEmpty
    decide
  have hparse : (RecordType.declared d).parseNew ['a', ':'] = .ok record := rfl
  have haccepts : s.Accepts [] := by
    intro f hf hname raw hraw
    rcases List.mem_cons.1 hf with rfl | hf
    · exact absurd hname (by decide)
    · rcases List.mem_cons.1 hf with rfl | hf
      · exact absurd hname (by decide)
      · obtain rfl := List.mem_singleton.1 hf
        obtain rfl := Selection.text.inj hraw
        exact ⟨.int 7, rfl⟩
  refine ⟨hs, hfresh, hparse, (recovers_parsed_iff hs hfresh hparse).1.2 ?_⟩
  exact ⟨⟨⟨[(['H'], ['a']), (['P'], []), (['N'], ['7'])]⟩, []⟩, ['a'],
    ⟨⟨[(['H'], ['a']), (['P'], [])]⟩, [], 1, 0⟩, rfl, rfl, rfl, haccepts, by decide⟩

/-- Of two options the first is written, and the longer one is read back: what the first leaves over
is lost. -/
theorem parsed_not_recovered :
    let template : Text := ['$', 'H', '(', ':', '|', ':', '/', ')', '$', 'P']
    let d : Declaration :=
      ⟨['S'], some (.text template), false,
        [⟨['h'], .text [], .named .string, none⟩, ⟨['p'], .text [], .named .string, none⟩]⟩
    let s : Schema :=
      ⟨['S'], template,
        ⟨template, [.capture ['H'] [[':'], [':', '/']] 0, .choice [[':'], [':', '/']],
          .capture ['P'] [] 8]⟩,
        [.create .string ['h'] [] none none, .create .string ['p'] [] none none]⟩
    let record : Record :=
      ⟨['S'], .declared false true, ⟨[(['h'], .text ['a']), (['p'], .text ['/', 'b'])]⟩⟩
    let output : Text := ['a', ':', '/', 'b']
    let record' : Record :=
      ⟨['S'], .declared false true, ⟨[(['h'], .text ['a']), (['p'], .text ['b'])]⟩⟩
    s.IsVerbatim d ∧ s.StartsEmpty (RecordType.declared d).fresh ∧
      (RecordType.declared d).parseNew ['a', ':', '/', '/', 'b'] = .ok record ∧
      (RecordType.declared d).format record = .ok output ∧
      (RecordType.declared d).parseNew output = .ok record' ∧
      record'.get? ['p'] ≠ record.get? ['p'] ∧ ¬ (RecordType.declared d).Recovers s record := by
  intro template d s record output record'
  have hs : s.IsVerbatim d :=
    ⟨rfl, by decide, rfl, by decide, by decide, by decide⟩
  have hfresh : s.StartsEmpty (RecordType.declared d).fresh := by
    unfold Schema.StartsEmpty
    decide
  have hformat : (RecordType.declared d).format record = .ok output := rfl
  have hparse' : (RecordType.declared d).parseNew output = .ok record' := rfl
  have hne : record'.get? ['p'] ≠ record.get? ['p'] := by decide
  refine ⟨hs, hfresh, rfl, hformat, hparse', hne, ?_⟩
  intro hrecovers
  obtain ⟨output', record'', hformat', hparse'', heq⟩ := hrecovers
  obtain rfl := Except.ok.inj (hformat.symm.trans hformat')
  obtain rfl := Except.ok.inj (hparse'.symm.trans hparse'')
  exact hne (heq (.create .string ['p'] [] none none) (by decide) (by decide))

end RecordType

end DsnBinding
