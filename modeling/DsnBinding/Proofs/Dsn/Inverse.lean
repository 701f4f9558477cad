import DsnBinding.Proofs.Dsn.Verbatim
import DsnBinding.Proofs.Dsn.Writing

/-!
When parsing inverts formatting, for a template without choices in which every group holds a
capture, and a record with a text for each variable. All of the template is written then, and the
texts are read back exactly if no stop of a capture begins within its text. A stop may do so without
standing in the text: it can begin at the end of the text and go on in what is written behind it.
-/
namespace DsnBinding

mutual

/-- No stop begins within the text of a capture, in what is written from there on. -/
def Segment.Undisturbed (filling : Filling) (behind : Text) : Segment → Prop
  | .capture name stops _ =>
    ∀ i < (filling.text name).length, ∀ stop ∈ stops,
      ¬ stop <+: (filling.text name ++ behind).drop i
  | .group inner => Segments.Undisturbed filling behind inner
  | .literal _ | .choice _ | .bare => True

def Segments.Undisturbed (filling : Filling) (behind : Text) : Segments → Prop
  | [] => True
  | segment :: rest =>
    segment.Undisturbed filling (Segments.write filling rest [] ++ behind) ∧
      Segments.Undisturbed filling behind rest

end

/-- A sequence that is written as a whole: it has no choice, and each of its groups has a text. -/
structure Segments.IsFilled (filling : Filling) (segments : Segments) : Prop where
  choices : segments.IsChoiceless
  bare : Segment.bare ∉ leaves segments
  groups : ∀ inner ∈ groups segments, hasText filling inner = true

namespace Segments

variable {filling : Filling} {segments : Segments} {written behind t : Text} {pieces : Pieces}

namespace IsFilled

theorem first {segment : Segment} {rest : Segments} (h : IsFilled filling (segment :: rest)) :
    IsFilled filling [segment] :=
  ⟨(isChoiceless_cons.1 h.choices).1,
    fun hmem => h.bare (List.mem_append_left _ (by simpa [leaves] using hmem)),
    fun inner hmem =>
      h.groups inner (List.mem_append_left _ (by simpa [Segments.groups] using hmem))⟩

theorem others {segment : Segment} {rest : Segments} (h : IsFilled filling (segment :: rest)) :
    IsFilled filling rest :=
  ⟨(isChoiceless_cons.1 h.choices).2, fun hmem => h.bare (List.mem_append_right _ hmem),
    fun inner hmem => h.groups inner (List.mem_append_right _ hmem)⟩

theorem inner {inner : Segments} (h : IsFilled filling [.group inner]) : IsFilled filling inner :=
  ⟨isChoiceless_group.1 h.choices,
    fun hmem => h.bare (by simpa [leaves, Segment.leaves] using hmem),
    fun other hmem => h.groups other (by simp [Segments.groups, Segment.groups, hmem])⟩

theorem hasText {inner : Segments} (h : IsFilled filling [.group inner]) :
    Segments.hasText filling inner = true :=
  h.groups inner (by simp [Segments.groups, Segment.groups])

theorem renders (h : IsFilled filling segments) :
    Renders filling.text segments (write filling segments []) := by
  obtain ⟨t, hrenders, hwrite⟩ := exists_write_eq h.choices h.bare h.groups
  rw [hwrite, List.nil_append]
  exact hrenders

/-- A group that has a text is written as some text. -/
theorem write_ne_nil {inner : Segments} (h : IsFilled filling [.group inner]) :
    write filling inner [] ≠ [] := by
  obtain ⟨name, hname, hne⟩ := hasText_iff.1 h.hasText
  exact h.inner.renders.ne_nil hname hne

theorem write_group {inner : Segments} (h : IsFilled filling [.group inner]) :
    (Segment.group inner).write filling [] = write filling inner [] := by
  rw [Segment.write, if_pos h.hasText]

end IsFilled

/-- A sequence consumes what is written for it, if its captures are undisturbed. -/
theorem Undisturbed.meets {next : Heads} {s : Cursor} (h : Undisturbed filling behind segments)
    (hfilled : IsFilled filling segments) (hstops : withStops next segments = .ok segments)
    (htexts : ∀ name ∈ names segments, filling.text name ≠ []) (hadmits : next.Admits behind)
    (hs : s.rest = write filling segments [] ++ behind) :
    Meets filling.text segments (write filling segments []) behind s := by
  induction segments using nestedInduction generalizing next behind s with
  | nil => exact ⟨Or.inr rfl, s, rfl, hs, by simp [names]⟩
  | cons segment rest hinner ih =>
    obtain ⟨hfirst, hothers⟩ := h
    have hadmitsRest := hfilled.others.renders.admits hadmits
    obtain ⟨hstopsFirst, hstopsRest⟩ := withStops_cons_eq_self hstops
    rw [write_cons hfilled.others.choices, List.append_assoc] at hs
    have hmeets : segment.Meets filling.text (segment.write filling [])
        (write filling rest [] ++ behind) s := by
      cases segment with
      | literal text => exact Segment.literal_meets hs
      | capture name stops offset =>
        have hne := htexts name (List.mem_append_left _ List.mem_cons_self)
        obtain ⟨hcapture, hliterals⟩ := Segment.withStops_capture_eq_self hstopsFirst
        have hends : Text.EndsAtStop stops (filling.text name ++ (write filling rest [] ++ behind))
            (filling.text name) := by
          refine ⟨List.prefix_append _ _, hfirst, ?_⟩
          rw [List.drop_left]
          rcases hadmitsRest hcapture with hnil | ⟨text, htext, hfits⟩
          · exact Or.inl (by rw [hnil, List.append_nil])
          · exact Or.inr ⟨text, hliterals ▸ List.mem_eraseDups.2 htext, hfits⟩
        refine Segment.capture_meets offset ?_ hne hs
        rw [hs]
        exact (Text.upTo_endsAtStop _ _).unique hends
      | choice options => exact absurd hfilled.first.choices (not_isChoiceless_choice options)
      | group inner =>
        have hwrite := hfilled.first.write_group
        rw [hwrite] at hs ⊢
        refine Segment.group_meets hs (fun hnil => absurd hnil hfilled.first.write_ne_nil) ?_
        exact hinner inner rfl hfirst hfilled.first.inner
          (Segment.withStops_group_eq_self hstopsFirst)
          (fun name hname => htexts name (List.mem_append_left _ hname)) hadmitsRest hs
      | bare => exact absurd (by simp [leaves, Segment.leaves]) hfilled.first.bare
    rw [write_cons hfilled.others.choices]
    apply meets_cons hs hmeets
    intro s' hs'
    exact ih hothers hfilled.others hstopsRest
      (fun name hname => htexts name (List.mem_append_right _ hname)) hadmits hs'

/-- Pieces that hold the written texts or nothing take at most as much room as what is written, and
if they take no less they are what is written. -/
theorem Derives.writes_of_values_le (h : Derives segments t pieces)
    (hfilled : IsFilled filling segments) (hnodup : (names segments).Nodup)
    (hvalues : ∀ name ∈ names segments, Pieces.value? pieces name = some [] ∨
      Pieces.value? pieces name = some (filling.text name)) :
    (Pieces.text pieces).length ≤ (write filling segments []).length ∧
      ((Pieces.text pieces).length = (write filling segments []).length →
        ∀ written, Writes filling segments written pieces) := by
  induction segments using nestedInduction generalizing t pieces with
  | nil =>
    cases h
    exact ⟨Nat.le_refl _, fun _ => .nil⟩
  | cons segment rest hinner ih =>
    cases h with | @cons _ _ t piece pieces first others =>
    obtain ⟨hvaluesFirst, hvaluesOthers⟩ := others.value?_cons first hnodup
    have hvalue : ∀ name ∈ segment.names, Pieces.value? [piece] name = some [] ∨
        Pieces.value? [piece] name = some (filling.text name) := by
      intro name hname
      rw [← hvaluesFirst name hname]
      exact hvalues name (List.mem_append_left _ hname)
    obtain ⟨hnodupFirst, hnodupRest, -⟩ := List.nodup_append.1 hnodup
    have hfirst : piece.text.length ≤ (segment.write filling []).length ∧
        (piece.text.length = (segment.write filling []).length →
          ∀ written, segment.Writes filling written piece) := by
      cases first with
      | @literal text _ _ => exact ⟨Nat.le_refl _, fun _ => .literal text⟩
      | @capture name stops offset _ text _ =>
        rcases hvalue name List.mem_cons_self with hnil | htext
        · obtain rfl : text = [] := by simpa using hnil
          refine ⟨Nat.zero_le _, fun hlength => ?_⟩
          rw [← show filling.text name = [] from List.length_eq_zero_iff.1 hlength.symm]
          exact .capture name stops offset
        · obtain rfl : text = filling.text name := by simpa using htext
          exact ⟨Nat.le_refl _, fun _ => .capture name stops offset⟩
      | @choice options _ _ _ _ _ =>
        exact absurd hfilled.first.choices (not_isChoiceless_choice options)
      | @present inner _ pieces hderives =>
        rw [hfilled.first.write_group]
        obtain ⟨hle, hwrites⟩ := hinner inner rfl hderives hfilled.first.inner hnodupFirst
          fun name hname => by simpa using hvalue name hname
        exact ⟨hle, fun hlength written => .present hfilled.first.hasText (hwrites hlength written)⟩
      | absent inner _ =>
        rw [hfilled.first.write_group]
        refine ⟨Nat.zero_le _, fun hlength => ?_⟩
        exact absurd (List.length_eq_zero_iff.1 hlength.symm) hfilled.first.write_ne_nil
    obtain ⟨hle, hwrites⟩ := ih others hfilled.others hnodupRest fun name hname =>
      (hvaluesOthers name hname) ▸ hvalues name (List.mem_append_right _ hname)
    rw [write_cons hfilled.others.choices, Pieces.text, List.length_append, List.length_append]
    refine ⟨by omega, ?_⟩
    intro hlength written
    exact .cons (hfirst.2 (by omega) written) (hwrites (by omega) _)

theorem Writes.write_nil_eq (h : Writes filling segments written pieces)
    (hchoices : IsChoiceless segments) : write filling segments [] = Pieces.text pieces :=
  List.append_cancel_left ((write_of_isChoiceless hchoices written).symm.trans h.write_eq)

theorem Writes.undisturbed (h : Writes filling segments written pieces)
    (hderives : Derives segments (Pieces.text pieces ++ behind) pieces)
    (hfilled : IsFilled filling segments) : Undisturbed filling behind segments := by
  induction segments using nestedInduction generalizing written behind pieces with
  | nil => trivial
  | cons segment rest hinner ih =>
    cases h with | @cons _ _ _ piece pieces first others =>
    generalize htext : Pieces.text (piece :: pieces) ++ behind = text at hderives
    cases hderives with | @cons _ _ t _ _ hpiece hpieces =>
    obtain rfl : Pieces.text pieces ++ behind = t := by
      simpa [Pieces.text, List.append_assoc] using htext
    refine ⟨?_, ih others hpieces hfilled.others⟩
    rw [others.write_nil_eq hfilled.others.choices]
    cases first with
    | literal _ _ | choice _ _ => trivial
    | capture name stops offset _ =>
      cases hpiece with | capture hends => exact hends.before
    | @present inner _ _ _ hwrites =>
      cases hpiece with | present hinnerDerives =>
      exact hinner inner rfl hwrites hinnerDerives hfilled.first.inner
    | leftOut _ hnone _ =>
      rw [hfilled.first.hasText] at hnone
      cases hnone

/-- A stop begins within a text and what stands behind it only if it stands in the text or if the
text ends with a beginning of it. -/
theorem not_prefix_drop {stop text : Text} (hstands : ¬ stop <:+: text)
    (hreaches : ∀ a b, stop = a ++ b → a ≠ [] → b ≠ [] → ¬ a <:+ text) {i : Nat}
    (hi : i < text.length) (behind : Text) : ¬ stop <+: (text ++ behind).drop i := by
  intro hbegins
  rw [List.drop_append_of_le_length hi.le] at hbegins
  by_cases hlength : stop.length ≤ (text.drop i).length
  · have hwithin := List.prefix_of_prefix_length_le hbegins (List.prefix_append _ behind) hlength
    exact hstands (hwithin.isInfix.trans (List.drop_suffix i text).isInfix)
  · obtain ⟨b, hb⟩ := List.prefix_of_prefix_length_le (List.prefix_append (text.drop i) behind)
      hbegins (Nat.le_of_not_le hlength)
    refine hreaches (text.drop i) b hb.symm ?_ ?_ (List.drop_suffix i text)
    · exact List.ne_nil_of_length_pos (by rw [List.length_drop]; omega)
    · rintro rfl
      rw [List.append_nil] at hb
      exact hlength (by rw [hb])

/-- Texts in which no stop stands, and which do not end with a beginning of one, are undisturbed
whatever stands behind them. -/
theorem undisturbed_of_texts (h : ∀ name stops offset,
      Segment.capture name stops offset ∈ leaves segments → ∀ stop ∈ stops,
        ¬ stop <:+: filling.text name ∧
          ∀ a b, stop = a ++ b → a ≠ [] → b ≠ [] → ¬ a <:+ filling.text name) (behind : Text) :
    Undisturbed filling behind segments := by
  induction segments using nestedInduction generalizing behind with
  | nil => trivial
  | cons segment rest hinner ih =>
    have hothers := ih fun name stops offset hmem =>
      h name stops offset (List.mem_append_right _ hmem)
    refine ⟨?_, hothers behind⟩
    cases segment with
    | literal _ | choice _ | bare => trivial
    | capture name stops offset =>
      intro i hi stop hstop
      obtain ⟨hstands, hreaches⟩ :=
        h name stops offset (List.mem_append_left _ (List.mem_singleton.2 rfl)) stop hstop
      exact not_prefix_drop hstands hreaches hi _
    | group inner =>
      exact hinner inner rfl
        (fun name stops offset hmem => h name stops offset (List.mem_append_left _ hmem)) _

end Segments

namespace Schema

variable {d : Declaration} {s : Schema} {record : Record} {filling : Filling} {output : Text}

/-- All of the template is written for the record: it has no choice, each of its groups holds a
variable, and the record has a text for each variable that can stand in a path. -/
structure IsFilledBy (record : Record) (s : Schema) : Prop where
  choices : s.pattern.segments.IsChoiceless
  groups : ∀ inner ∈ Segments.groups s.pattern.segments, Segments.names inner ≠ []
  texts : ∀ f ∈ s.fields, f.variableName ∈ s.pattern.names →
    ∃ t, record.get? f.name = some (.text t) ∧ t ≠ [] ∧ '?' ∉ t

namespace IsFilledBy

theorem filling_text (h : s.IsFilledBy record) (hs : s.IsVerbatim d)
    (hfilling : s.filling record = .ok filling) {name : Text} (hname : name ∈ s.pattern.names) :
    filling.text name ≠ [] ∧ '?' ∉ filling.text name := by
  obtain ⟨f, hf, rfl⟩ := hs.isOf.fed name hname
  obtain ⟨t, hvalue, ht⟩ := h.texts f hf hname
  rw [hs.filling_text_eq hfilling hf hname hvalue]
  exact ht

theorem isFilled (h : s.IsFilledBy record) (hs : s.IsVerbatim d)
    (hfilling : s.filling record = .ok filling) : s.pattern.segments.IsFilled filling := by
  refine ⟨h.choices, Pattern.bare_not_mem_leaves hs.isOf.compiled, ?_⟩
  intro inner hinner
  obtain ⟨name, hname⟩ := List.exists_mem_of_ne_nil _ (h.groups inner hinner)
  have hmem := Segments.names_of_mem_groups hinner hname
  exact Segments.hasText_iff.2 ⟨name, hname, (h.filling_text hs hfilling hmem).1⟩

theorem before_output (h : s.IsFilledBy record) (hs : s.IsVerbatim d)
    (hfilling : s.filling record = .ok filling) (hformat : s.format record = .ok output) :
    output.before '?' = Segments.write filling s.pattern.segments [] := by
  obtain ⟨filling', params, hfilling', rfl⟩ := format_eq_ok hformat
  obtain rfl := Except.ok.inj (hfilling'.symm.trans hfilling)
  apply before_append_querySuffix
  exact Segments.not_mem_write h.choices
    (fun _ htext => Pattern.question_not_mem_spelled hs.isOf.compiled h.choices htext)
    fun name hname => (h.filling_text hs hfilling hname).2

end IsFilledBy

end Schema

namespace RecordType

variable {d : Declaration} {s : Schema} {record : Record} {filling : Filling} {output : Text}

theorem recovers_of_undisturbed {fresh : Record} (hs : s.IsVerbatim d) (h : s.IsFilledBy record)
    (hcreate : (RecordType.declared d).create = .ok fresh)
    (hfilling : s.filling record = .ok filling) (hformat : s.format record = .ok output)
    (hundisturbed : s.pattern.segments.Undisturbed filling [])
    (haccepts : s.Accepts s.pattern.spelledScheme) :
    (RecordType.declared d).Recovers s record := by
  obtain ⟨-, -, hstops⟩ := Pattern.compile_eq_ok hs.isOf.compiled
  have hmeets := hundisturbed.meets (h.isFilled hs hfilling) hstops
    (fun name hname => (h.filling_text hs hfilling hname).1) (fun _ => Or.inl rfl)
    (s := Cursor.start _) (List.append_nil _).symm
  obtain ⟨o, hrun, hcaptures⟩ := Pattern.exists_run_of_meets hmeets
  rw [← h.before_output hs hfilling hformat] at hrun
  rw [← Pattern.scheme_of_isChoiceless h.choices hrun] at haccepts
  obtain ⟨record', hparse⟩ := exists_parseNew hs hcreate hrun haccepts
  refine ⟨output, record', (format_eq_ok_iff hs.schema).2 hformat, hparse, ?_⟩
  obtain ⟨o', hrun', -, hget⟩ := exists_run_of_parseNew hs hparse
  obtain rfl := Except.ok.inj (hrun'.symm.trans hrun)
  intro f hf hname
  obtain ⟨t, ht, hvalue⟩ := hget f hf hname
  obtain ⟨t', hvalue', hne, -⟩ := h.texts f hf hname
  rw [hcaptures, if_pos hname, hs.filling_text_eq hfilling hf hname hvalue'] at ht
  obtain rfl := Option.some.inj ht
  rw [hvalue, if_neg hne, hvalue']

/-- Texts that are read back were undisturbed: each capture holds its text or nothing, and together
they make up the whole output. -/
theorem undisturbed_of_run {o : Outcome} (hs : s.IsVerbatim d) (h : s.IsFilledBy record)
    (hfilling : s.filling record = .ok filling)
    (hrun : s.pattern.run (Segments.write filling s.pattern.segments []) = .ok o)
    (hcaptures : ∀ name ∈ s.pattern.names, o.captures.get? name = some [] ∨
      o.captures.get? name = some (filling.text name)) :
    s.pattern.segments.Undisturbed filling [] := by
  have hfilled := h.isFilled hs hfilling
  obtain ⟨pieces, hfinds, htext, hget⟩ := Pattern.exists_finds_of_run hrun
  obtain ⟨-, hwrites⟩ := hfinds.derives.writes_of_values_le hfilled hs.names
    fun name hname => hget name ▸ hcaptures name hname
  refine (hwrites (by rw [htext]) []).undisturbed ?_ hfilled
  rw [htext, List.append_nil]
  exact hfinds.derives

theorem undisturbed_of_recovers (hs : s.IsVerbatim d) (h : s.IsFilledBy record)
    (hrecovers : (RecordType.declared d).Recovers s record) :
    (∃ fresh, (RecordType.declared d).create = .ok fresh) ∧
      ∃ filling output, s.filling record = .ok filling ∧ s.format record = .ok output ∧
        s.pattern.segments.Undisturbed filling [] ∧ s.Accepts s.pattern.spelledScheme := by
  obtain ⟨output, record', hformat, hparse, heq⟩ := hrecovers
  have hformat := (format_eq_ok_iff hs.schema).1 hformat
  obtain ⟨filling, params, hfilling, -⟩ := Schema.format_eq_ok hformat
  obtain ⟨o, hrun, haccepts, hget⟩ := exists_run_of_parseNew hs hparse
  rw [Pattern.scheme_of_isChoiceless h.choices hrun] at haccepts
  rw [h.before_output hs hfilling hformat] at hrun
  refine ⟨exists_create_of_parseNew hparse, filling, output, hfilling, hformat, ?_, haccepts⟩
  apply undisturbed_of_run hs h hfilling hrun
  intro name hname
  obtain ⟨f, hf, rfl⟩ := hs.isOf.fed name hname
  obtain ⟨t, ht, hvalue⟩ := hget f hf hname
  obtain ⟨t', hvalue', -⟩ := h.texts f hf hname
  rw [ht, hs.filling_text_eq hfilling hf hname hvalue']
  -- An empty capture leaves the first value, which may happen to be the one of the record.
  by_cases hnil : t = []
  · exact Or.inl (congrArg some hnil)
  · rw [if_neg hnil, heq f hf hname, hvalue'] at hvalue
    exact Or.inr (congrArg some (Value.text.inj (Option.some.inj hvalue)).symm)

/-- When parsing inverts formatting, for a record that fills the template. It does exactly if the
type has new records, the record can be formatted, no stop of a variable begins within its text in
the output, and the fields beside the variables accept the scheme of the template. That no stop
stands in the text of its variable is not enough: the text must not end with a beginning of a stop
either. -/
theorem recovers_iff_undisturbed (hs : s.IsVerbatim d) (h : s.IsFilledBy record) :
    ((RecordType.declared d).Recovers s record ↔
      (∃ fresh, (RecordType.declared d).create = .ok fresh) ∧
        ∃ filling output, s.filling record = .ok filling ∧ s.format record = .ok output ∧
          s.pattern.segments.Undisturbed filling [] ∧ s.Accepts s.pattern.spelledScheme) ∧
      ∀ filling, s.filling record = .ok filling →
        (∀ name stops offset,
          Segment.capture name stops offset ∈ Segments.leaves s.pattern.segments →
            ∀ stop ∈ stops, ¬ stop <:+: filling.text name ∧
              ∀ a b, stop = a ++ b → a ≠ [] → b ≠ [] → ¬ a <:+ filling.text name) →
          s.pattern.segments.Undisturbed filling [] := by
  refine ⟨⟨undisturbed_of_recovers hs h, ?_⟩, fun _ _ htexts =>
    Segments.undisturbed_of_texts htexts []⟩
  intro hsome
  obtain ⟨⟨fresh, hcreate⟩, filling, output, hfilling, hformat, hundisturbed, haccepts⟩ := hsome
  exact recovers_of_undisturbed hs h hcreate hfilling hformat hundisturbed haccepts

/-- A host and a port are read back across two colons. -/
theorem recovers_host_port :
    let template : Text := ['$', 'H', ':', ':', '$', 'P']
    let d : Declaration :=
      ⟨['S'], some (.text template), false,
        [⟨['h'], .text [], .named .string, none⟩, ⟨['p'], .text [], .named .string, none⟩]⟩
    let s : Schema :=
      ⟨['S'], template,
        ⟨template, [.capture ['H'] [[':', ':']] 0, .literal [':', ':'], .capture ['P'] [] 4]⟩,
        [.create .string ['h'] [] none none, .create .string ['p'] [] none none]⟩
    let record : Record :=
      ⟨['S'], .declared false true, ⟨[(['h'], .text ['a', ':', 'b']), (['p'], .text ['8'])]⟩⟩
    s.IsVerbatim d ∧ s.IsFilledBy record ∧ (RecordType.declared d).Recovers s record := by
  intro template d s record
  have hs : s.IsVerbatim d :=
    ⟨rfl, by decide, rfl, by decide, by decide, by decide⟩
  have hfilled : s.IsFilledBy record := by
    refine ⟨by simp [s, Segments.IsChoiceless, Segments.leaves, Segment.leaves],
      by simp [s, Segments.groups, Segment.groups], ?_⟩
    intro f hf _
    rcases List.mem_cons.1 hf with rfl | hf
    · exact ⟨['a', ':', 'b'], rfl, by decide, by decide⟩
    · obtain rfl := List.mem_singleton.1 hf
      exact ⟨['8'], rfl, by decide, by decide⟩
  refine ⟨hs, hfilled, (recovers_iff_undisturbed hs hfilled).1.2 ?_⟩
  refine ⟨⟨_, rfl⟩, ⟨⟨[(['H'], ['a', ':', 'b']), (['P'], ['8'])]⟩, []⟩,
    ['a', ':', 'b', ':', ':', '8'], rfl, rfl, ?_, ?_⟩
  · refine ⟨?_, trivial, ?_, trivial⟩ <;> unfold Segment.Undisturbed <;> decide
  · intro f hf hname
    rcases List.mem_cons.1 hf with rfl | hf
    · exact absurd hname (by decide)
    · obtain rfl := List.mem_singleton.1 hf
      exact absurd hname (by decide)

/-- A host that ends with the beginning of the two colons is cut short, although they do not stand
in it. -/
theorem not_recovered_across_colons :
    let template : Text := ['$', 'H', ':', ':', '$', 'P']
    let d : Declaration :=
      ⟨['S'], some (.text template), false,
        [⟨['h'], .text [], .named .string, none⟩, ⟨['p'], .text [], .named .string, none⟩]⟩
    let s : Schema :=
      ⟨['S'], template,
        ⟨template, [.capture ['H'] [[':', ':']] 0, .literal [':', ':'], .capture ['P'] [] 4]⟩,
        [.create .string ['h'] [] none none, .create .string ['p'] [] none none]⟩
    let record : Record :=
      ⟨['S'], .declared false true, ⟨[(['h'], .text ['a', ':']), (['p'], .text ['8'])]⟩⟩
    let output : Text := ['a', ':', ':', ':', '8']
    let record' : Record :=
      ⟨['S'], .declared false true, ⟨[(['h'], .text ['a']), (['p'], .text [':', '8'])]⟩⟩
    s.IsVerbatim d ∧ s.IsFilledBy record ∧
      (∀ name stops offset,
        Segment.capture name stops offset ∈ Segments.leaves s.pattern.segments →
          ∀ stop ∈ stops, ∀ f ∈ s.fieldsFor name, ∀ t, record.get? f.name = some (.text t) →
            ¬ stop <:+: t) ∧
      (RecordType.declared d).format record = .ok output ∧
      (RecordType.declared d).parseNew output = .ok record' ∧
      record'.get? ['h'] ≠ record.get? ['h'] ∧ ¬ (RecordType.declared d).Recovers s record := by
  intro template d s record output record'
  have hs : s.IsVerbatim d :=
    ⟨rfl, by decide, rfl, by decide, by decide, by decide⟩
  have hfilled : s.IsFilledBy record := by
    refine ⟨by simp [s, Segments.IsChoiceless, Segments.leaves, Segment.leaves],
      by simp [s, Segments.groups, Segment.groups], ?_⟩
    intro f hf _
    rcases List.mem_cons.1 hf with rfl | hf
    · exact ⟨['a', ':'], rfl, by decide, by decide⟩
    · obtain rfl := List.mem_singleton.1 hf
      exact ⟨['8'], rfl, by decide, by decide⟩
  have hformat : (RecordType.declared d).format record = .ok output := rfl
  have hparse : (RecordType.declared d).parseNew output = .ok record' := rfl
  have hne : record'.get? ['h'] ≠ record.get? ['h'] := by decide
  have hstops : ∀ name stops offset,
      Segment.capture name stops offset ∈ Segments.leaves s.pattern.segments →
        ∀ stop ∈ stops, ∀ f ∈ s.fieldsFor name, ∀ t, record.get? f.name = some (.text t) →
          ¬ stop <:+: t := by
    intro name stops offset hmem stop hstop f hf t ht
    have hcapture : name = ['H'] ∧ stops = [[':', ':']] ∨ name = ['P'] ∧ stops = [] := by
      simp [s, Segments.leaves, Segment.leaves] at hmem
      tauto
    rcases hcapture with ⟨rfl, rfl⟩ | ⟨rfl, rfl⟩
    · obtain rfl := List.mem_singleton.1 hstop
      obtain rfl := List.mem_singleton.1 (show f ∈ [.create .string ['h'] [] none none] from hf)
      obtain rfl := Value.text.inj (Option.some.inj ht)
      decide
    · cases hstop
  refine ⟨hs, hfilled, hstops, hformat, hparse, hne, ?_⟩
  intro hrecovers
  obtain ⟨output', record'', hformat', hparse', heq⟩ := hrecovers
  obtain rfl := Except.ok.inj (hformat.symm.trans hformat')
  obtain rfl := Except.ok.inj (hparse.symm.trans hparse')
  exact hne (heq (.create .string ['h'] [] none none) (by decide) (by decide))

end RecordType

end DsnBinding
