import DsnBinding.Proofs.Binding
import DsnBinding.Proofs.Dsn.Parsing
import DsnBinding.Proofs.Dsn.Places
import DsnBinding.Proofs.Schema

/-!
When formatting keeps the scheme of a parsed text. Formatting follows the scheme through the
template with the options that matching took, but it looks no further than the scheme: an option
that goes beyond it, into the mark, is not recognised, and from there on the first options are
written. The scheme is kept exactly if these complete it, as they do where a literal behind the
scheme holds the mark.
-/
namespace DsnBinding

namespace Segments

/-- Formatting takes the options that matching took, as long as these stay within the scheme. -/
theorem Derives.restores_iff {lead : Segments} {t left : Text} {pieces : Pieces}
    (h : Derives lead t pieces) (hfixed : ∀ segment ∈ lead, segment.isFixed = true)
    (hleft : Pieces.text pieces ++ left <+: t) (filling : Filling) (others : List (List Text)) :
    Restores (places filling lead ++ others) (Pieces.text pieces ++ left) ↔ Restores others left := by
  induction lead generalizing t pieces with
  | nil =>
    cases h
    exact Iff.rfl
  | cons segment rest ih =>
    cases h with | @cons _ _ t piece pieces first hrest =>
    rw [Pieces.text, List.append_assoc] at hleft ⊢
    have hothers := ih hrest (fun other hother => hfixed other (List.mem_cons_of_mem segment hother))
      ((List.prefix_append_right_inj piece.text).1 hleft)
    rw [← hothers, places, List.append_assoc]
    generalize Pieces.text pieces ++ left = behind at hleft
    cases first with
    | @literal text _ hfits =>
      apply restores_cons_of_some
      simp [longestFirst, insertByLength, Piece.text]
    | @choice options option _ hmem hfits longest =>
      refine restores_cons_of_some (find?_longestFirst_of_longest hmem (List.prefix_append _ _) ?_)
      intro other hother hotherFits
      exact longest other hother (hotherFits.trans hleft)
    | capture _ | present _ | absent _ _ =>
      exact absurd (hfixed _ List.mem_cons_self) (by simp [Segment.isFixed])

end Segments

namespace Pattern

/-- A literal that holds the mark completes the scheme, if no colon can stand before it. -/
theorem restores_of_literal {pattern : Pattern} {path text : Text} {o : Outcome} {a b : Segments}
    (hrun : pattern.run path = .ok o) (hne : o.scheme ≠ [])
    (hlead : pattern.lead = a ++ .literal text :: b) (hmark : schemeMark <:+: text)
    (hcolon : ∀ t ∈ Segments.spelled a, ':' ∉ t) (filling : Filling) :
    Restores (Segments.places filling pattern.segments) o.scheme := by
  obtain ⟨pieces, left, hderives, hwithin, hscheme, hcomplete⟩ :=
    run_scheme_of_literal hrun hne hlead hmark hcolon
  have hfixed : ∀ segment ∈ a, segment.isFixed = true := by
    intro segment hsegment
    exact isFixed_of_mem_lead (hlead ▸ List.mem_append_left _ hsegment)
  have hplaces : Segments.places filling pattern.segments = Segments.places filling a ++
      ([text] :: (Segments.places filling b ++ Segments.places filling pattern.body)) := by
    rw [← lead_append_body, hlead, Segments.places_append, Segments.places_append, List.append_assoc]
    rfl
  have hnone : (longestFirst [text]).find? (·.isPrefixOf left) = none := by
    apply List.find?_eq_none.2
    intro t ht hfits
    have hlength := (List.isPrefixOf_iff_prefix.1 hfits).length_le
    have hlonger := hcomplete.length_le
    obtain rfl := List.mem_singleton.1 ht
    simp only [List.length_append, schemeMark, List.length_cons, List.length_nil] at hlonger
    omega
  rw [hscheme, hplaces, hderives.restores_iff hfixed hwithin filling, restores_cons_of_none hnone]
  exact hcomplete.trans (List.prefix_append text _)

end Pattern

/-- A schema with one field for the scheme, in which every field but the parameters holds a text. -/
structure Schema.IsTextual (s : Schema) : Prop where
  scheme : ∃ f, s.fields.filter Field.isScheme = [f]
  strings : ∀ f ∈ s.fields, f.isParams = false → f.kind = .string

namespace Schema

variable {d : Declaration} {s : Schema} {text : Text} {contents : Contents}

namespace IsTextual

theorem receives (h : s.IsTextual) (hd : s.IsOf d) {f : Field} (hf : f ∈ s.fields) :
    f.Receives d contents := by
  refine ⟨hd.names.subset (List.mem_map_of_mem hf), ?_⟩
  intro raw hraw
  cases hparams : f.isParams with
  | true =>
    rw [Field.select_of_isParams hparams] at hraw
    cases hraw
  | false => exact ⟨.text raw, Field.coerce_of_string (h.strings f hf hparams) raw⟩

theorem exists_scheme (h : s.IsTextual) (hne : contents.scheme ≠ []) :
    ∃ f ∈ s.fields, s.schemeField? = some f ∧ f.kind = .string ∧
      f.received? contents = some (.text contents.scheme) := by
  obtain ⟨f, hf⟩ := h.scheme
  have hmem : f ∈ s.fields.filter Field.isScheme := by simp [hf]
  obtain ⟨hmem, hscheme⟩ := List.mem_filter.1 hmem
  have hrole : f.role = some .scheme := by simpa [Field.isScheme] using hscheme
  have hparams : f.isParams = false := by simp [Field.isParams, hrole]
  have hkind := h.strings f hmem hparams
  refine ⟨f, hmem, ?_, hkind, ?_⟩
  · rw [schemeField?, ← List.head?_filter, hf]
    rfl
  · simp [Field.received?, Field.select, hparams, hscheme, hne, Field.coerce_of_string hkind,
      Except.toOption]

end IsTextual

theorem read_scheme (h : s.read text = .ok contents) :
    ¬ schemeMark <:+: contents.scheme ∧ '?' ∉ contents.scheme := by
  obtain ⟨o, hrun, rfl⟩ := read_eq_ok h
  by_cases hne : o.scheme = []
  · simp [hne, schemeMark]
  · obtain ⟨pieces, -, hbegins, hscheme⟩ := Pattern.run_scheme hrun
    rw [hscheme] at hne
    obtain ⟨hends, -⟩ := schemeOf_endsAtStop hne
    refine ⟨?_, ?_⟩
    · show ¬ schemeMark <:+: o.scheme
      rw [hscheme]
      exact hends.not_infix schemeMark_ne_nil
    · show '?' ∉ o.scheme
      rw [hscheme]
      intro hmem
      exact Text.not_mem_before '?' text ((hends.isPrefix.trans hbegins).subset hmem)

/-- The fields beside the parameters have texts unless one of them holds a number that is too long. -/
theorem IsTextual.haveTexts_iff (h : s.IsTextual) (hd : s.IsOf d) {record : Record}
    (hrecord : record.IsOf d) :
    HaveTexts record s.fields ↔ ∀ f ∈ s.fields, f.isParams = false →
      ∀ v, record.get? f.name = some v → v.isTooLong = false := by
  refine forall_congr' fun f => forall_congr' fun hf => forall_congr' fun hparams => ?_
  obtain ⟨v, hv⟩ := hrecord.exists_get? (hd.names.subset (List.mem_map_of_mem hf))
  rw [f.textIn_eq hv, Field.exists_toText_iff (h.strings f hf hparams), hv]
  simp

theorem IsTextual.exists_format (h : s.IsTextual) (hd : s.IsOf d) {record : Record}
    (hne : contents.scheme ≠ []) (htexts : HaveTexts record s.fields)
    (hget : ∀ f ∈ s.fields, ∀ v, f.received? contents = some v → record.get? f.name = some v) :
    ∃ filling params, s.filling record = .ok filling ∧ filling.scheme = contents.scheme ∧
      s.format record =
        .ok (Segments.write filling s.pattern.segments [] ++ querySuffix params) := by
  have hparams : ∃ params, textOf? record s.paramsField? = .ok params := by
    cases hg : s.paramsField? with
    | none => exact ⟨[], rfl⟩
    | some g =>
      have hmem : g ∈ s.fields := List.mem_of_find?_eq_some hg
      have hgparams : g.isParams = true := List.find?_some hg
      have hv := hget g hmem (.ofQuery contents.query)
        (by rw [Field.received?, Field.select_of_isParams hgparams])
      exact ⟨_, (g.textIn_eq hv).trans (Field.toText_ofQuery (hd.params g hmem hgparams) _)⟩
  obtain ⟨filling, hfilling⟩ := exists_filling_iff.2 htexts
  obtain ⟨params, hparams⟩ := hparams
  obtain ⟨f, hf, hschemeField, hkind, hreceived⟩ := h.exists_scheme hne
  have hscheme : textOf? record s.schemeField? = .ok contents.scheme := by
    rw [hschemeField]
    apply (f.textIn_eq (hget f hf _ hreceived)).trans
    simp [Field.toText, hkind, Value.isTooLong, Value.display]
  refine ⟨filling, params, hfilling, ?_, format_eq hfilling hparams⟩
  exact Except.ok.inj ((filling_eq_ok hfilling).2.symm.trans hscheme)

theorem IsTextual.keeps_scheme_iff (h : s.IsTextual) (hd : s.IsOf d) {record : Record} {output : Text}
    (hread : s.read text = .ok contents) (hne : contents.scheme ≠ [])
    (hget : ∀ f ∈ s.fields, ∀ v, f.received? contents = some v → record.get? f.name = some v)
    (hformat : s.format record = .ok output) :
    ∃ filling, s.filling record = .ok filling ∧ filling.scheme = contents.scheme ∧
      (contents.scheme ++ schemeMark <+: output ↔
        Restores (Segments.places filling s.pattern.segments) contents.scheme) := by
  obtain ⟨filling', -, hfilling', -⟩ := format_eq_ok hformat
  obtain ⟨filling, params, hfilling, hscheme, hformat'⟩ :=
    h.exists_format hd hne (exists_filling_iff.1 ⟨filling', hfilling'⟩) hget
  obtain rfl := Except.ok.inj (hformat'.symm.trans hformat)
  obtain ⟨hmark, hquestion⟩ := read_scheme hread
  have hschemed : filling.IsSchemed := by
    refine ⟨?_, ?_, ?_⟩ <;> rw [hscheme]
    · exact hne
    · exact hmark
    · exact hquestion
  have hplaces : ∀ options ∈ Segments.places filling s.pattern.segments, options ≠ [] :=
    fun _ hmem => Segments.ne_nil_of_mem_places (Pattern.hasOptions_compile hd.compiled) hmem
  have hiff : filling.scheme ++ schemeMark <+:
        filling.writeAll (Segments.places filling s.pattern.segments) [] ++ querySuffix params ↔
      Restores (Segments.places filling s.pattern.segments) filling.scheme :=
    hschemed.restores_iff params hplaces rfl
  rw [← Segments.write_eq_writeAll, hscheme] at hiff
  exact ⟨filling, hfilling, hscheme, hiff⟩

end Schema

/-- A record that was parsed from a text with a scheme can be formatted, unless a field of strings
holds a number that is too long. The output keeps the scheme exactly if the template, with the texts
of the record, restores it. A literal that holds the mark, with no colon before it, ensures this. A
type declares each name once. -/
theorem RecordType.format_keeps_scheme_iff {d : Declaration} {s : Schema} {text : Text}
    {record : Record} {contents : Contents} (hfrozen : d.frozen = false) (hnames : d.names.Nodup)
    (hschema : Schema.ofRecordType (.declared d) = .ok s) (htextual : s.IsTextual)
    (hparse : (RecordType.declared d).parseNew text = .ok record)
    (hread : s.read text = .ok contents) (hne : contents.scheme ≠ []) :
    ((∃ output, (RecordType.declared d).format record = .ok output) ↔
        ∀ f ∈ s.fields, f.isParams = false →
          ∀ v, record.get? f.name = some v → v.isTooLong = false) ∧
      ∀ output, (RecordType.declared d).format record = .ok output →
        ∃ filling, s.filling record = .ok filling ∧ filling.scheme = contents.scheme ∧
          (contents.scheme ++ schemeMark <+: output ↔
            Restores (Segments.places filling s.pattern.segments) contents.scheme) ∧
          ((∃ before mark behind, s.pattern.lead = before ++ .literal mark :: behind ∧
              schemeMark <:+: mark ∧ ∀ t ∈ Segments.spelled before, ':' ∉ t) →
            contents.scheme ++ schemeMark <+: output) := by
  have hd := Schema.isOf_of_ofRecordType hschema
  obtain ⟨contents', hread', hbind⟩ := parseNew_eq_ok hschema hparse
  obtain rfl : contents' = contents := Except.ok.inj (hread'.symm.trans hread)
  obtain ⟨record', hbind', hrecord, hgets, -⟩ :=
    Contents.exists_bind (isOf_fresh hnames) hfrozen (fun f hf => htextual.receives hd hf)
      (hnames.sublist hd.names)
  obtain rfl : record' = record := (Prod.mk.inj (hbind'.symm.trans hbind)).1
  have hget : ∀ f ∈ s.fields, ∀ v, f.received? contents' = some v →
      record'.get? f.name = some v := by
    intro f hf v hv
    rw [hgets f hf, hv, Option.some_or]
  rw [← htextual.haveTexts_iff hd hrecord]
  simp only [format_eq_ok_iff hschema]
  refine ⟨⟨?_, ?_⟩, ?_⟩
  · intro hsome
    obtain ⟨output, hformat⟩ := hsome
    obtain ⟨filling, -, hfilling, -⟩ := Schema.format_eq_ok hformat
    exact Schema.exists_filling_iff.1 ⟨filling, hfilling⟩
  · intro htexts
    obtain ⟨_, _, -, -, hformat⟩ := htextual.exists_format hd hne htexts hget
    exact ⟨_, hformat⟩
  · intro output hformat
    obtain ⟨filling, hfilling, hscheme, hiff⟩ :=
      htextual.keeps_scheme_iff hd hread hne hget hformat
    refine ⟨filling, hfilling, hscheme, hiff, ?_⟩
    intro hsome
    obtain ⟨before, mark, behind, hlead, hholds, hcolon⟩ := hsome
    obtain ⟨o, hrun, rfl⟩ := Schema.read_eq_ok hread
    exact hiff.2 (Pattern.restores_of_literal hrun hne hlead hholds hcolon filling)

/-- A choice of schemes in front of a literal mark keeps the second scheme. -/
theorem RecordType.format_keeps_scheme_before_literal :
    let http : Text := ['h', 't', 't', 'p']
    let https : Text := http ++ ['s']
    let template : Text := '(' :: http ++ '|' :: https ++ ')' :: schemeMark ++ ['$', 'P']
    let d : Declaration :=
      ⟨['D'], some (.text template), false,
        [⟨Role.scheme.label, .text [], .named .string, none⟩,
          ⟨['p'], .text [], .named .string, none⟩]⟩
    let s : Schema :=
      ⟨['D'], template,
        ⟨template, [.choice [http, https], .literal schemeMark, .capture ['P'] [] 15]⟩,
        [.create .string Role.scheme.label [] none (some .scheme),
          .create .string ['p'] [] none none]⟩
    let text : Text := https ++ schemeMark ++ ['x']
    let record : Record :=
      ⟨['D'], .declared false true, ⟨[(Role.scheme.label, .text https), (['p'], .text ['x'])]⟩⟩
    let contents : Contents := ⟨⟨[(['P'], ['x'])]⟩, https, .empty⟩
    Schema.ofRecordType (.declared d) = .ok s ∧
      (RecordType.declared d).parseNew text = .ok record ∧ s.read text = .ok contents ∧
      ∃ filling output, s.filling record = .ok filling ∧ filling.scheme = contents.scheme ∧
        (RecordType.declared d).format record = .ok output ∧
        (contents.scheme ++ schemeMark <+: output ↔
          Restores (Segments.places filling s.pattern.segments) contents.scheme) ∧
        ((∃ before mark behind, s.pattern.lead = before ++ .literal mark :: behind ∧
            schemeMark <:+: mark ∧ ∀ t ∈ Segments.spelled before, ':' ∉ t) →
          contents.scheme ++ schemeMark <+: output) := by
  intro http https template d s text record contents
  have hschema : Schema.ofRecordType (.declared d) = .ok s := rfl
  have hparse : (RecordType.declared d).parseNew text = .ok record := rfl
  have hread : s.read text = .ok contents := rfl
  have htextual : s.IsTextual := ⟨⟨_, rfl⟩, by decide⟩
  obtain ⟨hwritten, hkeeps⟩ :=
    format_keeps_scheme_iff rfl (by decide) hschema htextual hparse hread (by decide)
  have hshort : ∀ f ∈ s.fields, f.isParams = false →
      ∀ v, record.get? f.name = some v → v.isTooLong = false := by decide
  obtain ⟨output, hformat⟩ := hwritten.2 hshort
  obtain ⟨filling, hfilling, hscheme, hiff, hmark⟩ := hkeeps output hformat
  exact ⟨hschema, hparse, hread, filling, output, hfilling, hscheme, hformat, hiff, hmark⟩

/-- A choice between schemes together with their marks does not keep the second scheme: the option
that reproduces it goes beyond the scheme, and the first option is written instead. -/
theorem RecordType.format_loses_scheme :
    let http : Text := ['h', 't', 't', 'p']
    let https : Text := http ++ ['s']
    let template : Text :=
      '(' :: http ++ schemeMark ++ '|' :: https ++ schemeMark ++ [')', '$', 'P']
    let d : Declaration :=
      ⟨['D'], some (.text template), false,
        [⟨Role.scheme.label, .text [], .named .string, none⟩,
          ⟨['p'], .text [], .named .string, none⟩]⟩
    let s : Schema :=
      ⟨['D'], template,
        ⟨template, [.choice [http ++ schemeMark, https ++ schemeMark], .capture ['P'] [] 18]⟩,
        [.create .string Role.scheme.label [] none (some .scheme),
          .create .string ['p'] [] none none]⟩
    let text : Text := https ++ schemeMark ++ ['x']
    let record : Record :=
      ⟨['D'], .declared false true, ⟨[(Role.scheme.label, .text https), (['p'], .text ['x'])]⟩⟩
    let contents : Contents := ⟨⟨[(['P'], ['x'])]⟩, https, .empty⟩
    let output : Text := http ++ schemeMark ++ ['x']
    d.names.Nodup ∧ Schema.ofRecordType (.declared d) = .ok s ∧ s.IsTextual ∧
      (RecordType.declared d).parseNew text = .ok record ∧ s.read text = .ok contents ∧
      contents.scheme ≠ [] ∧ (RecordType.declared d).format record = .ok output ∧
      ¬ contents.scheme ++ schemeMark <+: output := by
  intro http https template d s text record contents output
  exact ⟨by decide, rfl, ⟨⟨_, rfl⟩, by decide⟩, rfl, rfl, by decide, rfl, by decide⟩

end DsnBinding
