import DsnBinding.Dsn.Formatting
import DsnBinding.Proofs.Field.Coercion
import DsnBinding.Proofs.Pattern.Rendering

/-!
What formatting writes. If every field but the parameters has a text, each variable with a single
field gets the text of that field. A template without choices is written as its fullest rendering if
every group holds a text, and the parameters can be taken off the output again.
-/
namespace DsnBinding

namespace Segments

theorem hasText_iff {filling : Filling} {segments : Segments} :
    hasText filling segments = true ↔ ∃ name ∈ names segments, filling.text name ≠ [] := by
  induction segments using nestedInduction with
  | nil => simp [hasText, names]
  | cons segment rest hinner ih =>
    have hfirst : segment.hasText filling = true ↔
        ∃ name ∈ segment.names, filling.text name ≠ [] := by
      cases segment with
      | group inner => exact hinner inner rfl
      | literal _ | capture _ _ _ | choice _ | bare => simp [Segment.hasText, Segment.names]
    simp only [hasText, names, Bool.or_eq_true, hfirst, ih, List.mem_append, or_and_right,
      exists_or]

theorem exists_write_eq {filling : Filling} {segments : Segments}
    (hchoices : ∀ options, Segment.choice options ∉ leaves segments)
    (hbare : Segment.bare ∉ leaves segments)
    (hgroups : ∀ inner ∈ groups segments, hasText filling inner = true) :
    ∃ t, Renders filling.text segments t ∧
      ∀ written, write filling segments written = written ++ t := by
  induction segments using nestedInduction with
  | nil => exact ⟨[], .nil, fun written => (List.append_nil written).symm⟩
  | cons segment rest hinner ih =>
    have hfirst : ∃ t, segment.Renders filling.text t ∧
        ∀ written, segment.write filling written = written ++ t := by
      cases segment with
      | literal text => exact ⟨text, .literal text, fun _ => rfl⟩
      | capture name stops offset =>
        exact ⟨filling.text name, .capture name stops offset, fun _ => rfl⟩
      | choice options =>
        exact absurd (List.mem_append_left _ (List.mem_singleton.2 rfl)) (hchoices options)
      | group inner =>
        obtain ⟨t, hrenders, hwrite⟩ := hinner inner rfl
          (fun options hmem => hchoices options (List.mem_append_left _ hmem))
          (fun hmem => hbare (List.mem_append_left _ hmem))
          (fun inner' hmem =>
            hgroups inner' (List.mem_append_left _ (List.mem_cons_of_mem inner hmem)))
        refine ⟨t, .group hrenders, ?_⟩
        intro written
        rw [Segment.write, if_pos (hgroups inner (List.mem_append_left _ List.mem_cons_self)),
          hwrite]
      | bare => exact absurd (List.mem_append_left _ (List.mem_singleton.2 rfl)) hbare
    obtain ⟨t, hrenders, hwrite⟩ := hfirst
    obtain ⟨u, hrenders', hwrite'⟩ := ih
      (fun options hmem => hchoices options (List.mem_append_right _ hmem))
      (fun hmem => hbare (List.mem_append_right _ hmem))
      (fun inner hmem => hgroups inner (List.mem_append_right _ hmem))
    refine ⟨t ++ u, .cons hrenders hrenders', ?_⟩
    intro written
    rw [write, hwrite, hwrite', List.append_assoc]

/-- A rendering has no other characters than those that are spelled or stand in a text. -/
theorem Renders.not_mem {texts : Text → Text} {segments : Segments} {t : Text} {c : Char}
    (h : Renders texts segments t) (hspelled : ∀ text ∈ spelled segments, c ∉ text)
    (htexts : ∀ name ∈ names segments, c ∉ texts name) : c ∉ t := by
  induction segments using nestedInduction generalizing t with
  | nil =>
    cases h
    exact List.not_mem_nil
  | cons segment rest hinner ih =>
    cases h with | @cons _ _ t u first others =>
    have hfirst : c ∉ t := by
      cases first with
      | literal text => exact hspelled _ (List.mem_append_left _ (List.mem_singleton.2 rfl))
      | capture name _ _ => exact htexts name (List.mem_append_left _ (List.mem_singleton.2 rfl))
      | choice hmem _ => exact hspelled _ (List.mem_append_left _ hmem)
      | @group inner _ hrenders =>
        exact hinner inner rfl hrenders
          (fun text hmem => hspelled text (List.mem_append_left _ hmem))
          (fun name hmem => htexts name (List.mem_append_left _ hmem))
    have hothers := ih others (fun text hmem => hspelled text (List.mem_append_right _ hmem))
      (fun name hmem => htexts name (List.mem_append_right _ hmem))
    intro hmem
    exact (List.mem_append.1 hmem).elim hfirst hothers

end Segments

namespace Field

theorem textIn_eq (f : Field) {record : Record} {v : Value} (h : record.get? f.name = some v) :
    f.textIn record = f.toText v := by
  simp [textIn, Record.read, h, textOf]

theorem exists_toText_iff {f : Field} (h : f.kind = .string) (v : Value) :
    (∃ t, f.toText v = .ok t) ↔ v.isTooLong = false := by
  cases v with
  | null => simp [toText, h, Value.isTooLong]
  | bool _ | int _ | text _ | map _ =>
    simp only [toText, h]
    split
    · rename_i hlong
      simp [hlong]
    · rename_i hshort
      simpa using hshort

end Field

namespace Schema

variable {record : Record} {fields : List Field} {texts texts' : OrderedMap Text Text}

/-- The fields beside the parameters have texts. -/
def HaveTexts (record : Record) (fields : List Field) : Prop :=
  ∀ f ∈ fields, f.isParams = false → ∃ t, f.textIn record = .ok t

theorem haveTexts_cons {f : Field} :
    HaveTexts record (f :: fields) ↔
      (f.isParams = false → ∃ t, f.textIn record = .ok t) ∧ HaveTexts record fields :=
  List.forall_mem_cons

theorem exists_textsIn_iff (texts : OrderedMap Text Text) :
    (∃ texts', textsIn record fields texts = .ok texts') ↔ HaveTexts record fields := by
  induction fields generalizing texts with
  | nil => exact ⟨fun _ => by simp [HaveTexts], fun _ => ⟨texts, rfl⟩⟩
  | cons f rest ih =>
    rw [haveTexts_cons, textsIn]
    cases hparams : f.isParams with
    | true => simpa using ih texts
    | false =>
      cases ht : f.textIn record with
      | error error => simp
      | ok t => simpa using ih _

theorem get?_textsIn_of_not_fed {name : Text} (h : textsIn record fields texts = .ok texts')
    (hf : fields.filter (·.variableName == name) = []) : texts'.get? name = texts.get? name := by
  induction fields generalizing texts with
  | nil =>
    obtain rfl := Except.ok.inj h
    rfl
  | cons g rest ih =>
    rw [List.filter_eq_nil_iff] at hf
    have hg : g.variableName ≠ name := by simpa using hf g List.mem_cons_self
    have hrest : rest.filter (·.variableName == name) = [] :=
      List.filter_eq_nil_iff.2 fun k hk => hf k (List.mem_cons_of_mem g hk)
    unfold textsIn at h
    split at h
    · exact ih h hrest
    · split at h
      · cases h
      · rw [ih h hrest]
        split
        · rfl
        · rw [OrderedMap.get?_insert, if_neg hg]

theorem get?_textsIn {name t : Text} {f : Field} (h : textsIn record fields texts = .ok texts')
    (hparams : f.isParams = false) (ht : f.textIn record = .ok t) (hname : texts.get? name = none)
    (hf : fields.filter (·.variableName == name) = [f]) : texts'.get? name = some t := by
  induction fields generalizing texts with
  | nil => cases hf
  | cons g rest ih =>
    unfold textsIn at h
    by_cases hg : g.variableName = name
    · rw [List.filter_cons_of_pos (by simpa using hg)] at hf
      obtain ⟨rfl, hrest⟩ := List.cons.inj hf
      have hnew : texts.contains g.variableName = false := by
        simp [OrderedMap.contains, hg, hname]
      simp only [hparams, ht, hnew, Bool.and_false, Bool.false_eq_true, if_false] at h
      rw [get?_textsIn_of_not_fed h hrest, OrderedMap.get?_insert, if_pos hg]
    · rw [List.filter_cons_of_neg (by simpa using hg)] at hf
      split at h
      · exact ih h hname hf
      · split at h
        · cases h
        · refine ih h ?_ hf
          split
          · exact hname
          · rw [OrderedMap.get?_insert, if_neg hg, hname]

variable {s : Schema}

theorem exists_filling_iff :
    (∃ filling, s.filling record = .ok filling) ↔ HaveTexts record s.fields := by
  rw [← exists_textsIn_iff .empty]
  constructor
  · intro hsome
    obtain ⟨filling, hfilling⟩ := hsome
    unfold Schema.filling at hfilling
    split at hfilling
    · cases hfilling
    · rename_i texts htexts
      exact ⟨texts, htexts⟩
  · intro hsome
    have htexts := (exists_textsIn_iff .empty).1 hsome
    have hscheme : ∃ t, textOf? record s.schemeField? = .ok t := by
      cases hf : s.schemeField? with
      | none => exact ⟨[], rfl⟩
      | some f =>
        have hrole : f.role = some .scheme := by simpa [Field.isScheme] using List.find?_some hf
        exact htexts f (List.mem_of_find?_eq_some hf) (by simp [Field.isParams, hrole])
    obtain ⟨texts, htexts⟩ := hsome
    obtain ⟨scheme, hscheme⟩ := hscheme
    refine ⟨⟨texts, scheme⟩, ?_⟩
    rw [filling, htexts, hscheme]
    rfl

theorem filling_eq_ok {filling : Filling} (h : s.filling record = .ok filling) :
    textsIn record s.fields .empty = .ok filling.texts ∧
      textOf? record s.schemeField? = .ok filling.scheme := by
  unfold Schema.filling at h
  split at h
  · cases h
  · rename_i texts htexts
    obtain ⟨scheme, hscheme, rfl⟩ := map_eq_ok.1 h
    exact ⟨htexts, hscheme⟩

theorem filling_text {filling : Filling} {name t : Text} {f : Field}
    (h : s.filling record = .ok filling) (hf : s.fieldsFor name = [f]) (hparams : f.isParams = false)
    (ht : f.textIn record = .ok t) : filling.text name = t := by
  have htext := get?_textsIn (filling_eq_ok h).1 hparams ht (OrderedMap.get?_empty name) hf
  rw [Filling.text, htext, Option.getD_some]

theorem format_eq {filling : Filling} {params : Text} (h : s.filling record = .ok filling)
    (hparams : textOf? record s.paramsField? = .ok params) :
    s.format record = .ok (Segments.write filling s.pattern.segments [] ++ querySuffix params) := by
  rw [format, h, hparams]
  rfl

theorem format_eq_ok {output : Text} (h : s.format record = .ok output) :
    ∃ filling params, s.filling record = .ok filling ∧
      output = Segments.write filling s.pattern.segments [] ++ querySuffix params := by
  unfold format at h
  split at h
  · cases h
  · rename_i filling hfilling
    obtain ⟨params, -, rfl⟩ := map_eq_ok.1 h
    exact ⟨filling, params, hfilling, rfl⟩

end Schema

theorem Query.extract_append_querySuffix {path params : Text} (h : '?' ∉ path) :
    extract (path ++ Schema.querySuffix params) = (path, parse params) := by
  cases params with
  | nil =>
    rw [extract, Text.before_append h, Text.after_append h]
    simp [Schema.querySuffix, Text.before, Text.after]
  | cons c params =>
    have hsuffix : Schema.querySuffix (c :: params) = '?' :: c :: params := rfl
    rw [extract, hsuffix, Text.before_append_cons h, Text.after_append_cons h]

theorem Schema.before_append_querySuffix {path params : Text} (h : '?' ∉ path) :
    (path ++ querySuffix params).before '?' = path :=
  congrArg Prod.fst (Query.extract_append_querySuffix h)

theorem RecordType.format_eq_ok_iff {d : Declaration} {s : Schema} {record : Record} {output : Text}
    (hschema : Schema.ofRecordType (.declared d) = .ok s) :
    (RecordType.declared d).format record = .ok output ↔ s.format record = .ok output := by
  simp only [format, Record.formatWith, hschema]
  cases s.format record <;> simp

end DsnBinding
