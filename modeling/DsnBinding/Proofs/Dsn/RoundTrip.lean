import DsnBinding.Dsn.Parsing
import DsnBinding.Proofs.Binding
import DsnBinding.Proofs.Dsn.Formatting
import DsnBinding.Proofs.Schema

/-!
A formatted record can be parsed again. Formatting writes the fullest rendering of the template, its
path ends where the query begins, and every capture ends where its text ended. Hence each field that
the template or the parameters feed receives the value it was formatted from, whatever record is
parsed into.
-/
namespace DsnBinding

/-- A schema whose template leaves nothing open: it has no choice, each of its groups holds a
capture, each variable belongs to one field without a role, and the fields beside them and the
parameters hold texts. -/
structure Schema.IsDefinite (s : Schema) : Prop where
  choices : ∀ options, Segment.choice options ∉ Segments.leaves s.pattern.segments
  groups : ∀ inner ∈ Segments.groups s.pattern.segments, Segments.names inner ≠ []
  captures : ∀ name ∈ s.pattern.names, ∃ f, s.fieldsFor name = [f] ∧ f.role = none
  params : (s.fields.filter Field.isParams).length ≤ 1
  others : ∀ f ∈ s.fields, f.variableName ∉ s.pattern.names → f.isParams = false → f.kind = .string

/-- A record whose texts can be told apart from the template and from the query: each variable has a
text that stands for its value, the parameters are a plain map of texts, and no other field holds a
number that is too long to be written, as none does that holds a string. -/
structure Schema.IsLegible (s : Schema) (record : Record) : Prop where
  captures : ∀ name ∈ s.pattern.names, ∀ f ∈ s.fieldsFor name, ∃ v t,
    record.get? f.name = some v ∧ f.toText v = .ok t ∧ f.coerce t = .ok v ∧
      t.IsClearOf (Segments.spelled s.pattern.segments) ∧ '?' ∉ t
  params : ∀ f ∈ s.fields, f.isParams = true →
    ∃ query : Query, record.get? f.name = some (.ofQuery query) ∧ query.IsPlain
  others : ∀ f ∈ s.fields, f.variableName ∉ s.pattern.names → f.isParams = false →
    ∀ v, record.get? f.name = some v → v.isTooLong = false

namespace Schema

variable {d : Declaration} {s : Schema} {record : Record}

namespace IsDefinite

theorem cases_field (h : s.IsDefinite) {f : Field} (hf : f ∈ s.fields) :
    (f.variableName ∈ s.pattern.names ∧ s.fieldsFor f.variableName = [f] ∧ f.role = none) ∨
      f.isParams = true ∨
      (f.variableName ∉ s.pattern.names ∧ f.isParams = false ∧ f.kind = .string) := by
  by_cases hname : f.variableName ∈ s.pattern.names
  · obtain ⟨g, hg, hrole⟩ := h.captures _ hname
    have hmem : f ∈ s.fieldsFor f.variableName := mem_fieldsFor.2 ⟨hf, rfl⟩
    rw [hg, List.mem_singleton] at hmem
    subst hmem
    exact Or.inl ⟨hname, hg, hrole⟩
  · cases hparams : f.isParams with
    | true => exact Or.inr (Or.inl rfl)
    | false => exact Or.inr (Or.inr ⟨hname, rfl, h.others f hf hname hparams⟩)

theorem isParams_eq_false {f : Field} (h : f.role = none) : f.isParams = false := by
  simp [Field.isParams, h]

theorem exists_textIn (h : s.IsDefinite) (hd : s.IsOf d) (hrecord : record.IsOf d)
    (hlegible : s.IsLegible record) {f : Field} (hf : f ∈ s.fields) (hparams : f.isParams = false) :
    ∃ t, f.textIn record = .ok t := by
  rcases h.cases_field hf with ⟨hname, hfields, -⟩ | hparams' | ⟨hname, -, hkind⟩
  · obtain ⟨v, t, hv, ht, -⟩ := hlegible.captures _ hname f (mem_fieldsFor.2 ⟨hf, rfl⟩)
    exact ⟨t, (f.textIn_eq hv).trans ht⟩
  · rw [hparams] at hparams'
    cases hparams'
  · obtain ⟨v, hv⟩ := hrecord.exists_get? (hd.names.subset (List.mem_map_of_mem hf))
    rw [f.textIn_eq hv]
    exact (Field.exists_toText_iff hkind v).2 (hlegible.others f hf hname hparams v hv)

theorem exists_query (h : s.IsDefinite) (hd : s.IsOf d) (hlegible : s.IsLegible record) :
    ∃ query : Query, textOf? record s.paramsField? = .ok query.render ∧
      Query.parse query.render = query ∧
      ∀ f ∈ s.fields, f.isParams = true → record.get? f.name = some (.ofQuery query) := by
  cases hparams : s.paramsField? with
  | none =>
    refine ⟨.empty, rfl, rfl, ?_⟩
    intro f hf hparams'
    exact absurd hparams' (List.find?_eq_none.1 hparams f hf)
  | some g =>
    have hg : g ∈ s.fields := List.mem_of_find?_eq_some hparams
    have hgparams : g.isParams = true := List.find?_some hparams
    obtain ⟨query, hget, hplain⟩ := hlegible.params g hg hgparams
    refine ⟨query, ?_, Query.parse_render hplain, ?_⟩
    · exact (g.textIn_eq hget).trans (Field.toText_ofQuery (hd.params g hg hgparams) query)
    · intro f hf hfparams
      obtain ⟨k, hk⟩ : ∃ k, s.fields.filter Field.isParams = [k] := by
        refine List.length_eq_one_iff.1 (Nat.le_antisymm h.params ?_)
        exact List.length_pos_of_mem (List.mem_filter.2 ⟨hg, hgparams⟩)
      have hfk : f ∈ [k] := hk ▸ List.mem_filter.2 ⟨hf, hfparams⟩
      have hgk : g ∈ [k] := hk ▸ List.mem_filter.2 ⟨hg, hgparams⟩
      rw [List.mem_singleton.1 hfk, ← List.mem_singleton.1 hgk]
      exact hget

theorem filling_text_eq (h : s.IsDefinite) {filling : Filling}
    (hfilling : s.filling record = .ok filling) {name t : Text} {f : Field}
    (hname : name ∈ s.pattern.names) (hf : s.fieldsFor name = [f])
    (ht : f.textIn record = .ok t) : filling.text name = t := by
  obtain ⟨g, hg, hrole⟩ := h.captures name hname
  obtain rfl := (List.cons.inj (hf.symm.trans hg)).1
  exact filling_text hfilling hf (isParams_eq_false hrole) ht

theorem isClearOf_filling_text (h : s.IsDefinite) (hlegible : s.IsLegible record) {filling : Filling}
    (hfilling : s.filling record = .ok filling) {name : Text} (hname : name ∈ s.pattern.names) :
    (filling.text name).IsClearOf (Segments.spelled s.pattern.segments) ∧
      '?' ∉ filling.text name := by
  obtain ⟨f, hf, -⟩ := h.captures name hname
  obtain ⟨v, t, hv, ht, -, hclear⟩ :=
    hlegible.captures name hname f (hf ▸ List.mem_singleton.2 rfl)
  rw [h.filling_text_eq hfilling hname hf ((f.textIn_eq hv).trans ht)]
  exact hclear

/-- A path that is written with clear texts is matched, and no part of it is taken for a query. -/
theorem exists_run_write (h : s.IsDefinite) (hd : s.IsOf d) {filling : Filling}
    (hclear : ∀ name ∈ s.pattern.names,
      (filling.text name).IsClearOf (Segments.spelled s.pattern.segments) ∧
        '?' ∉ filling.text name) :
    ∃ o, s.pattern.run (Segments.write filling s.pattern.segments []) = .ok o ∧
      '?' ∉ Segments.write filling s.pattern.segments [] ∧
      ∀ name ∈ s.pattern.names, o.captures.get? name = some (filling.text name) := by
  have hgroups : ∀ inner ∈ Segments.groups s.pattern.segments,
      Segments.hasText filling inner = true := by
    intro inner hinner
    obtain ⟨name, hname⟩ := List.exists_mem_of_ne_nil _ (h.groups inner hinner)
    have hmem : name ∈ s.pattern.names := Segments.names_of_mem_groups hinner hname
    exact Segments.hasText_iff.2 ⟨name, hname, (hclear name hmem).1.1⟩
  obtain ⟨path, hrenders, hwrite⟩ := Segments.exists_write_eq h.choices
    (Pattern.bare_not_mem_leaves hd.compiled) hgroups
  obtain ⟨o, hrun, hcaptures⟩ := Pattern.exists_run_of_renders hd.compiled hrenders
    fun name hname => (hclear name hname).1
  rw [hwrite, List.nil_append]
  refine ⟨o, hrun, ?_, fun name hname => (hcaptures name).trans (if_pos hname)⟩
  exact hrenders.not_mem
    (fun _ htext => Pattern.question_not_mem_spelled hd.compiled h.choices htext)
    fun name hname => (hclear name hname).2

end IsDefinite

end Schema

/-- What was read from a text holds the texts and the parameters of a record. -/
structure Contents.IsOf (s : Schema) (record : Record) (contents : Contents) : Prop where
  captures : ∀ name ∈ s.pattern.names, ∀ f, s.fieldsFor name = [f] → ∀ t,
    f.textIn record = .ok t → contents.captures.get? name = some t
  params : ∀ f ∈ s.fields, f.isParams = true → record.get? f.name = some (.ofQuery contents.query)

namespace Schema.IsDefinite

variable {d : Declaration} {s : Schema} {record : Record}

theorem exists_read (h : s.IsDefinite) (hd : s.IsOf d) (hrecord : record.IsOf d)
    (hlegible : s.IsLegible record) :
    ∃ text contents, s.format record = .ok text ∧ s.read text = .ok contents ∧
      contents.IsOf s record := by
  obtain ⟨filling, hfilling⟩ := exists_filling_iff.2 fun f hf hparams =>
    h.exists_textIn hd hrecord hlegible hf hparams
  obtain ⟨query, hquery, hparse, hget⟩ := h.exists_query hd hlegible
  obtain ⟨o, hrun, hpath, hcaptures⟩ := h.exists_run_write hd fun name hname =>
    h.isClearOf_filling_text hlegible hfilling hname
  refine ⟨_, ⟨o.captures, o.scheme, query⟩, format_eq hfilling hquery, ?_, ?_, hget⟩
  · simp only [read, Query.extract_append_querySuffix hpath, hparse, hrun]
  · intro name hname f hf t ht
    rw [← h.filling_text_eq hfilling hname hf ht]
    exact hcaptures name hname

theorem receives (h : s.IsDefinite) (hd : s.IsOf d) (hlegible : s.IsLegible record)
    {contents : Contents} (hcontents : contents.IsOf s record) {f : Field} (hf : f ∈ s.fields) :
    f.Receives d contents ∧ (f.variableName ∈ s.pattern.names ∨ f.isParams = true →
      f.received? contents = record.get? f.name) := by
  have hname : f.name ∈ d.names := hd.names.subset (List.mem_map_of_mem hf)
  rcases h.cases_field hf with ⟨hvariable, hfields, hrole⟩ | hparams |
    ⟨hvariable, hparams, hkind⟩
  · obtain ⟨v, t, hv, ht, hcoerce, ⟨hne, -⟩, -⟩ :=
      hlegible.captures _ hvariable f (mem_fieldsFor.2 ⟨hf, rfl⟩)
    have hselect : f.select contents = .text t :=
      f.select_of_captured hrole hne
        (hcontents.captures _ hvariable f hfields t ((f.textIn_eq hv).trans ht))
    refine ⟨⟨hname, ?_⟩, ?_⟩
    · intro raw hraw
      obtain rfl := Selection.text.inj (hselect.symm.trans hraw)
      exact ⟨v, hcoerce⟩
    · intro _
      simp [Field.received?, hselect, hcoerce, hv, Except.toOption]
  · have hselect : f.select contents = .parameters := Field.select_of_isParams hparams
    refine ⟨⟨hname, ?_⟩, ?_⟩
    · intro raw hraw
      rw [hselect] at hraw
      cases hraw
    · intro _
      simp [Field.received?, hselect, hcontents.params f hf hparams]
  · refine ⟨⟨hname, fun raw _ => ⟨.text raw, Field.coerce_of_string hkind raw⟩⟩, ?_⟩
    intro hor
    rcases hor with hmem | hparams'
    · exact absurd hmem hvariable
    · rw [hparams] at hparams'
      cases hparams'

end Schema.IsDefinite

/-- A legible record of a definite schema survives formatting and parsing: whatever record its text
is parsed into, the fields of the variables and of the parameters receive the values that it holds.
A type declares each name once. -/
theorem RecordType.parse_format {d : Declaration} {s : Schema} {record target : Record}
    (hfrozen : d.frozen = false) (hnames : d.names.Nodup)
    (hschema : Schema.ofRecordType (.declared d) = .ok s) (hdefinite : s.IsDefinite)
    (hrecord : record.IsOf d) (htarget : target.IsOf d) (hlegible : s.IsLegible record) :
    ∃ text target', (RecordType.declared d).format record = .ok text ∧
      (RecordType.declared d).parse target text = (target', none) ∧ target'.IsOf d ∧
      ∀ f ∈ s.fields, f.variableName ∈ s.pattern.names ∨ f.isParams = true →
        target'.get? f.name = record.get? f.name := by
  have hd := Schema.isOf_of_ofRecordType hschema
  obtain ⟨text, contents, hformat, hread, hcontents⟩ := hdefinite.exists_read hd hrecord hlegible
  have hreceives := fun f (hf : f ∈ s.fields) => hdefinite.receives hd hlegible hcontents hf
  obtain ⟨target', hbind, htarget', hget, -⟩ :=
    Contents.exists_bind htarget hfrozen (fun f hf => (hreceives f hf).1) (hnames.sublist hd.names)
  refine ⟨text, target', ?_, ?_, htarget', ?_⟩
  · simp only [format, Record.formatWith, hschema, hformat]
  · simp only [parse, parseWith, hschema, Schema.parse, hread, hbind, Option.map_none]
  · intro f hf hfed
    obtain ⟨v, hv⟩ := hrecord.exists_get? (hd.names.subset (List.mem_map_of_mem hf))
    rw [hget f hf, (hreceives f hf).2 hfed, hv, Option.some_or]

/-- A text, a number in a group and a map of parameters are read back. -/
theorem RecordType.parse_format_number_in_group :
    let template : Text := ['$', 'H', '[', ':', '$', 'P', ']']
    let params := Role.params.label
    let d : Declaration :=
      ⟨['S'], some (.text template), false,
        [⟨['h'], .null, .named .string, none⟩, ⟨['p'], .null, .named .integer, none⟩,
          ⟨params, .null, .named .dict, none⟩]⟩
    let s : Schema :=
      ⟨['S'], template,
        ⟨template, [.capture ['H'] [[':']] 0, .group [.literal [':'], .capture ['P'] [] 4]]⟩,
        [.create .string ['h'] [] none none, .create .integer ['p'] [] none none,
          .create .map params [] none (some .params)]⟩
    let record : Record :=
      ⟨['S'], .declared false true,
        ⟨[(['h'], .text ['a']), (['p'], .int 8), (params, .map [(['k'], .text ['v', '='])])]⟩⟩
    let target := (RecordType.declared d).fresh
    Schema.ofRecordType (.declared d) = .ok s ∧ s.IsDefinite ∧ record.IsOf d ∧ target.IsOf d ∧
      s.IsLegible record ∧
      ∃ text target', (RecordType.declared d).format record = .ok text ∧
        (RecordType.declared d).parse target text = (target', none) ∧ target'.IsOf d ∧
        ∀ f ∈ s.fields, f.variableName ∈ s.pattern.names ∨ f.isParams = true →
          target'.get? f.name = record.get? f.name := by
  intro template params d s record target
  have hschema : Schema.ofRecordType (.declared d) = .ok s := rfl
  have hspelled : Segments.spelled s.pattern.segments = [[':']] := rfl
  have hnames : s.pattern.names = [['H'], ['P']] := rfl
  have hdefinite : s.IsDefinite := by
    refine ⟨?_, ?_, ?_, by decide, ?_⟩
    · intro options hmem
      simp [s, Segments.leaves, Segment.leaves] at hmem
    · intro inner hinner
      obtain rfl : inner = [.literal [':'], .capture ['P'] [] 4] := by
        simpa [s, Segments.groups, Segment.groups] using hinner
      exact List.cons_ne_nil _ _
    · rw [hnames]
      intro name hname
      rcases List.mem_cons.1 hname with rfl | hname
      · exact ⟨.create .string ['h'] [] none none, rfl, rfl⟩
      · obtain rfl := List.mem_singleton.1 hname
        exact ⟨.create .integer ['p'] [] none none, rfl, rfl⟩
    · decide
  have hrecord : record.IsOf d := ⟨rfl, rfl, rfl⟩
  have htarget : target.IsOf d := ⟨rfl, rfl, rfl⟩
  have hlegible : s.IsLegible record := by
    refine ⟨?_, ?_, ?_⟩
    · rw [hnames, hspelled]
      intro name hname f hf
      rcases List.mem_cons.1 hname with rfl | hname
      · obtain rfl := List.mem_singleton.1 (show f ∈ [.create .string ['h'] [] none none] from hf)
        exact ⟨.text ['a'], ['a'], rfl, rfl, rfl, ⟨by simp, by simp⟩, by simp⟩
      · obtain rfl := List.mem_singleton.1 hname
        obtain rfl := List.mem_singleton.1 (show f ∈ [.create .integer ['p'] [] none none] from hf)
        exact ⟨.int 8, ['8'], rfl, rfl, rfl, ⟨by simp, by simp⟩, by simp⟩
    · intro f hf hparams
      have hfield : f ∈ [.create .map params [] none (some .params)] := by
        have hmem : f ∈ s.fields.filter Field.isParams := List.mem_filter.2 ⟨hf, hparams⟩
        exact hmem
      obtain rfl := List.mem_singleton.1 hfield
      exact ⟨⟨[(['k'], ['v', '='])]⟩, rfl, by decide, by decide, by decide⟩
    · decide
  exact ⟨hschema, hdefinite, hrecord, htarget, hlegible,
    parse_format rfl (by decide) hschema hdefinite hrecord htarget hlegible⟩

end DsnBinding
