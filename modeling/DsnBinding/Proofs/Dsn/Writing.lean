import DsnBinding.Proofs.Dsn.Formatting
import DsnBinding.Proofs.Pattern.Accounting
import DsnBinding.Proofs.Pattern.Scheme

/-!
What formatting writes for a template, as pieces: each literal, the text of each capture, the option
that is chosen for each choice, and the pieces of each group that holds a text. Nothing is written
for the other groups. Pieces that are found in the output as they were written hold the texts they
were written with; and without choices no other pieces that make up the output do.
-/
namespace DsnBinding

mutual

/-- A piece is what is written for a segment behind the given text. -/
inductive Segment.Writes (filling : Filling) : Segment → Text → Piece → Prop
  | literal (text written : Text) : Segment.Writes filling (.literal text) written (.literal text)
  | capture (name : Text) (stops : List Text) (offset : Nat) (written : Text) :
      Segment.Writes filling (.capture name stops offset) written
        (.capture name (filling.text name))
  | choice (options : List Text) (written : Text) :
      Segment.Writes filling (.choice options) written (.option (filling.option written options))
  | present {inner : Segments} {written : Text} {pieces : Pieces}
      (htext : Segments.hasText filling inner = true)
      (h : Segments.Writes filling inner written pieces) :
      Segment.Writes filling (.group inner) written (.present pieces)
  | leftOut {inner : Segments} {piece : Piece} (written : Text)
      (htext : Segments.hasText filling inner = false) (hnil : piece.text = []) :
      Segment.Writes filling (.group inner) written piece

inductive Segments.Writes (filling : Filling) : Segments → Text → Pieces → Prop
  | nil (written : Text) : Segments.Writes filling [] written []
  | cons {segment : Segment} {segments : Segments} {written : Text} {piece : Piece}
      {pieces : Pieces} (first : segment.Writes filling written piece)
      (others : Segments.Writes filling segments (written ++ piece.text) pieces) :
      Segments.Writes filling (segment :: segments) written (piece :: pieces)

end

namespace Segments

variable {filling : Filling} {segments : Segments} {written t : Text} {pieces : Pieces}

theorem text_eq_nil_of_hasText (h : hasText filling segments = false) {name : Text}
    (hname : name ∈ names segments) : filling.text name = [] := by
  refine Decidable.byContradiction fun hne => ?_
  have htext := hasText_iff.2 ⟨name, hname, hne⟩
  rw [h] at htext
  cases htext

theorem Writes.write_eq (h : Writes filling segments written pieces) :
    write filling segments written = written ++ Pieces.text pieces := by
  induction segments using nestedInduction generalizing written pieces with
  | nil =>
    cases h
    exact (List.append_nil written).symm
  | cons segment rest hinner ih =>
    cases h with | @cons _ _ _ piece pieces first others =>
    have hfirst : segment.write filling written = written ++ piece.text := by
      cases first with
      | literal _ _ | capture _ _ _ _ | choice _ _ => rfl
      | @present inner _ _ htext hwrites =>
        rw [Segment.write, if_pos htext, hinner inner rfl hwrites]
        rfl
      | leftOut _ htext hnil =>
        rw [Segment.write, if_neg (by simp [htext]), hnil, List.append_nil]
    rw [write, hfirst, ih others, Pieces.text, List.append_assoc]

/-- The text of a group that nothing is written for is accounted for by an empty piece. -/
theorem leftOut_text {inner : Segments} {piece : Piece} (htext : hasText filling inner = false)
    (hnil : piece.text = []) (hderives : (Segment.group inner).Derives (piece.text ++ t) piece)
    {name : Text} :
    (∀ u ∈ piece.captured name, u = filling.text name) ∧
      (name ∈ piece.missing → filling.text name = []) := by
  have hsingle : Derives [.group inner] (piece.text ++ t) [piece] := .cons hderives (.nil t)
  by_cases hname : name ∈ names inner
  · rw [text_eq_nil_of_hasText htext hname]
    refine ⟨?_, fun _ => rfl⟩
    intro u hu
    exact List.infix_nil.1 (hnil ▸ Piece.infix_text piece hu)
  · have hnot := hsingle.not_captured (by simpa [names, Segment.names] using hname)
    simp only [Pieces.captured, Pieces.missing, List.append_nil] at hnot
    exact ⟨by simp [hnot.1], fun hmissing => absurd hmissing hnot.2⟩

/-- What is captured in written pieces are the texts that were written, and what is missing there
has no text. -/
theorem Writes.texts (h : Writes filling segments written pieces)
    (hderives : Derives segments t pieces) {name : Text} :
    (∀ u ∈ Pieces.captured name pieces, u = filling.text name) ∧
      (name ∈ Pieces.missing pieces → filling.text name = []) := by
  induction segments using nestedInduction generalizing written t pieces with
  | nil =>
    cases h
    exact ⟨by simp [Pieces.captured], by simp [Pieces.missing]⟩
  | cons segment rest hinner ih =>
    cases h with | @cons _ _ _ piece pieces first others =>
    cases hderives with | cons hpiece hpieces =>
    have hfirst : (∀ u ∈ piece.captured name, u = filling.text name) ∧
        (name ∈ piece.missing → filling.text name = []) := by
      cases first with
      | literal _ _ | choice _ _ => exact ⟨by simp [Piece.captured], by simp [Piece.missing]⟩
      | capture name' _ _ _ =>
        refine ⟨?_, by simp [Piece.missing]⟩
        by_cases hname : name' = name <;> simp [Piece.captured, hname]
      | @present inner _ _ _ hwrites =>
        cases hpiece with | present hinnerDerives =>
        exact hinner inner rfl hwrites hinnerDerives
      | leftOut _ htext hnil => exact leftOut_text htext hnil hpiece
    obtain ⟨hcaptured, hmissing⟩ := ih others hpieces
    refine ⟨?_, ?_⟩
    · intro u hu
      exact (List.mem_append.1 hu).elim (hfirst.1 u) (hcaptured u)
    · intro hname
      exact (List.mem_append.1 hname).elim hfirst.2 hmissing

theorem Writes.value?_eq (h : Writes filling segments written pieces)
    (hderives : Derives segments t pieces) {name : Text} (hname : name ∈ names segments) :
    Pieces.value? pieces name = some (filling.text name) :=
  Pieces.value?_eq_some (hderives.captured_or_missing hname) (h.texts hderives).1
    (h.texts hderives).2

theorem write_of_isChoiceless (h : IsChoiceless segments) (written : Text) :
    write filling segments written = written ++ write filling segments [] := by
  induction segments using nestedInduction generalizing written with
  | nil => exact (List.append_nil written).symm
  | cons segment rest hinner ih =>
    obtain ⟨hsegment, hrest⟩ := isChoiceless_cons.1 h
    have hfirst : segment.write filling written = written ++ segment.write filling [] := by
      cases segment with
      | literal _ | capture _ _ _ => rfl
      | choice options => exact absurd hsegment (not_isChoiceless_choice options)
      | group inner =>
        unfold Segment.write
        split
        · exact hinner inner rfl (isChoiceless_group.1 hsegment) written
        · exact (List.append_nil written).symm
      | bare => exact (List.append_nil written).symm
    rw [write, write, hfirst, ih hrest, ih hrest (segment.write filling []), List.append_assoc]

theorem write_cons {segment : Segment} {rest : Segments} (h : IsChoiceless rest) :
    write filling (segment :: rest) [] = segment.write filling [] ++ write filling rest [] :=
  write_of_isChoiceless h _

theorem not_mem_write {c : Char} (h : IsChoiceless segments)
    (hspelled : ∀ text ∈ spelled segments, c ∉ text)
    (htexts : ∀ name ∈ names segments, c ∉ filling.text name) : c ∉ write filling segments [] := by
  induction segments using nestedInduction with
  | nil => exact List.not_mem_nil
  | cons segment rest hinner ih =>
    obtain ⟨hsegment, hrest⟩ := isChoiceless_cons.1 h
    have hfirst : c ∉ segment.write filling [] := by
      cases segment with
      | literal text => exact hspelled text (List.mem_append_left _ (List.mem_singleton.2 rfl))
      | capture name _ _ => exact htexts name (List.mem_append_left _ (List.mem_singleton.2 rfl))
      | choice options => exact absurd hsegment (not_isChoiceless_choice options)
      | group inner =>
        unfold Segment.write
        split
        · exact hinner inner rfl (isChoiceless_group.1 hsegment)
            (fun text htext => hspelled text (List.mem_append_left _ htext))
            fun name hname => htexts name (List.mem_append_left _ hname)
        · exact List.not_mem_nil
      | bare => exact List.not_mem_nil
    rw [write_cons hrest, List.mem_append, not_or]
    exact ⟨hfirst, ih hrest (fun text htext => hspelled text (List.mem_append_right _ htext))
      fun name hname => htexts name (List.mem_append_right _ hname)⟩

theorem Derives.text_lead {lead : Segments} (h : Derives lead t pieces)
    (hchoices : IsChoiceless lead) (hfixed : ∀ segment ∈ lead, segment.isFixed = true) :
    Pieces.text pieces = (spelled lead).flatten := by
  induction lead generalizing t pieces with
  | nil =>
    cases h
    rfl
  | cons segment rest ih =>
    cases h with | @cons _ _ t piece pieces first others =>
    obtain ⟨hsegment, hrest⟩ := isChoiceless_cons.1 hchoices
    have hothers := ih others hrest
      fun other hother => hfixed other (List.mem_cons_of_mem segment hother)
    rw [Pieces.text, hothers, spelled, List.flatten_append]
    cases first with
    | @literal text _ _ => simp [Piece.text, Segment.spelled]
    | @choice options _ _ _ _ _ => exact absurd hsegment (not_isChoiceless_choice options)
    | capture _ | present _ | absent _ _ =>
      exact absurd (hfixed _ List.mem_cons_self) (by simp [Segment.isFixed])

/-- Pieces that hold the written texts take at least as much room as what is written, and if they
take no more they are what is written: a group without a text can only add to them. -/
theorem Derives.writes_of_values (h : Derives segments t pieces) (hchoices : IsChoiceless segments)
    (hnodup : (names segments).Nodup)
    (hvalues : ∀ name ∈ names segments, Pieces.value? pieces name = some (filling.text name)) :
    (write filling segments []).length ≤ (Pieces.text pieces).length ∧
      ((Pieces.text pieces).length = (write filling segments []).length →
        ∀ written, Writes filling segments written pieces) := by
  induction segments using nestedInduction generalizing t pieces with
  | nil =>
    cases h
    exact ⟨Nat.le_refl _, fun _ => .nil⟩
  | cons segment rest hinner ih =>
    cases h with | @cons _ _ t piece pieces first others =>
    obtain ⟨hsegment, hrest⟩ := isChoiceless_cons.1 hchoices
    obtain ⟨hvaluesFirst, hvaluesOthers⟩ := others.value?_cons first hnodup
    have hvalue : ∀ name ∈ segment.names,
        Pieces.value? [piece] name = some (filling.text name) := by
      intro name hname
      rw [← hvaluesFirst name hname]
      exact hvalues name (List.mem_append_left _ hname)
    obtain ⟨hnodupFirst, hnodupRest, -⟩ := List.nodup_append.1 hnodup
    have hfirst : (segment.write filling []).length ≤ piece.text.length ∧
        (piece.text.length = (segment.write filling []).length →
          ∀ written, segment.Writes filling written piece) := by
      cases first with
      | @literal text _ _ => exact ⟨Nat.le_refl _, fun _ => .literal text⟩
      | @capture name stops offset _ text _ =>
        obtain rfl : text = filling.text name := by simpa using hvalue name List.mem_cons_self
        exact ⟨Nat.le_refl _, fun _ => .capture name stops offset⟩
      | @choice options _ _ _ _ _ => exact absurd hsegment (not_isChoiceless_choice options)
      | @present inner _ pieces hderives =>
        obtain ⟨hle, hwrites⟩ := hinner inner rfl hderives (isChoiceless_group.1 hsegment)
          hnodupFirst fun name hname =>
            (Pieces.value?_present pieces name).symm.trans (hvalue name hname)
        unfold Segment.write
        split
        · rename_i htext
          exact ⟨hle, fun hlength written => .present htext (hwrites hlength written)⟩
        · rename_i htext
          refine ⟨Nat.zero_le _, fun hlength written => ?_⟩
          exact .leftOut written (by simpa using htext) (List.length_eq_zero_iff.1 hlength)
      | absent inner _ =>
        have htext : hasText filling inner = false := by
          refine Bool.eq_false_iff.2 fun htext => ?_
          obtain ⟨name, hname, hne⟩ := hasText_iff.1 htext
          have heq := hvalue name hname
          rw [Pieces.value?_absent hname] at heq
          exact hne (Option.some.inj heq).symm
        rw [Segment.write, if_neg (by simp [htext])]
        exact ⟨Nat.le_refl _, fun _ written => .leftOut written htext rfl⟩
    obtain ⟨hle, hwrites⟩ := ih others hrest hnodupRest fun name hname =>
      (hvaluesOthers name hname).symm.trans (hvalues name (List.mem_append_right _ hname))
    rw [write_cons hrest, Pieces.text, List.length_append, List.length_append]
    refine ⟨by omega, ?_⟩
    intro hlength written
    exact .cons (hfirst.2 (by omega) written) (hwrites (by omega) _)

end Segments

/-- The scheme that a pattern without choices spells, whatever it matches. -/
def Pattern.spelledScheme (pattern : Pattern) : Text :=
  schemeOf (Segments.spelled pattern.lead).flatten

theorem Pattern.scheme_of_isChoiceless {pattern : Pattern} {text : Text} {o : Outcome}
    (h : pattern.segments.IsChoiceless) (hrun : pattern.run text = .ok o) :
    o.scheme = pattern.spelledScheme := by
  obtain ⟨pieces, hderives, -, hscheme⟩ := run_scheme hrun
  have hlead : pattern.lead.IsChoiceless := by
    intro options hmem
    apply h options
    rw [← lead_append_body, Segments.leaves_append]
    exact List.mem_append_left _ hmem
  rw [hscheme, hderives.text_lead hlead fun _ hsegment => isFixed_of_mem_lead hsegment,
    spelledScheme]

end DsnBinding
