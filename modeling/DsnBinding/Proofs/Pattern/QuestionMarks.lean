import DsnBinding.Proofs.Pattern.Printing
import DsnBinding.Proofs.Pattern.Rendering
import DsnBinding.Query

/-!
The question marks of a template. One that is not in a choice can only end the template, and then it
stands for nothing. In a choice it is read like any plain character, so that an option can hold one
although no path does. That nothing a pattern spells out holds a question mark is therefore the same
as that no choice of its template has one.
-/
namespace DsnBinding

namespace Template

/-- What stands between the texts stands in a choice. -/
def InChoice (before behind : Text) : Prop :=
  ∃ u left right v, before = u ++ '(' :: left ∧ behind = right ++ ')' :: v ∧
    ∀ c ∈ left ++ right, isSpecial c = false

theorem InChoice.append {before behind : Text} (h : InChoice before behind) (u v : Text) :
    InChoice (u ++ before) (behind ++ v) := by
  obtain ⟨u', left, right, v', rfl, rfl, hplain⟩ := h
  exact ⟨u ++ u', left, right, v' ++ v, by simp, by simp, hplain⟩

theorem exists_mem_options_iff {c : Char} (hc : c ≠ '|') (body : Text) :
    (∃ option ∈ Item.options body, c ∈ option) ↔ c ∈ body := by
  rw [← optionsOf_eq]
  constructor
  · intro hsome
    obtain ⟨option, hoption, hmem⟩ := hsome
    exact (mem_optionsOf hoption).2 c hmem
  · intro hmem
    unfold optionsOf
    split
    · obtain ⟨piece, hpiece, hc⟩ := Text.exists_mem_splitOn hc hmem
      exact ⟨piece, List.mem_eraseDups.2 hpiece, hc⟩
    · exact ⟨body, List.mem_cons_self, hmem⟩

end Template

namespace Segments

/-- A character stands in one of the texts that a sequence spells out. -/
def Mentions (segments : Segments) (c : Char) : Prop := ∃ text ∈ spelled segments, c ∈ text

variable {c d : Char}

theorem mentions_cons {segment : Segment} {rest : Segments} :
    Mentions (segment :: rest) c ↔ (∃ text ∈ segment.spelled, c ∈ text) ∨ rest.Mentions c := by
  simp only [Mentions, spelled, List.mem_append, or_and_right, exists_or]

theorem mentions_withChar {segments : Segments} :
    (segments.withChar d).Mentions c ↔ c = d ∨ segments.Mentions c := by
  unfold withChar
  split
  · simp [mentions_cons, Segment.spelled, or_assoc]
  · simp [mentions_cons, Segment.spelled]

theorem spelled_withoutStops (segments : Segments) :
    spelled (withoutStops segments) = spelled segments := by
  induction segments using nestedInduction with
  | nil => rfl
  | cons segment rest hinner ih =>
    have hfirst : segment.withoutStops.spelled = segment.spelled := by
      cases segment with
      | group inner => exact hinner inner rfl
      | literal _ | capture _ _ _ | choice _ | bare => rfl
    rw [withoutStops, spelled, spelled, hfirst, ih]

theorem spelled_withoutOffsets (segments : Segments) :
    spelled (withoutOffsets segments) = spelled segments := by
  induction segments using nestedInduction with
  | nil => rfl
  | cons segment rest hinner ih =>
    have hfirst : segment.withoutOffsets.spelled = segment.spelled := by
      cases segment with
      | group inner => exact hinner inner rfl
      | literal _ | capture _ _ _ | choice _ | bare => rfl
    rw [withoutOffsets, spelled, spelled, hfirst, ih]

/-- The stops of the captures are texts that the sequence, or what follows it, spells out. -/
theorem mem_of_mem_stops {segments : Segments} {next : Heads} {marks : List Text}
    (hstops : withStops next segments = .ok segments) (hspelled : segments.SpelledIn marks)
    (hwithin : next.Within marks) {name : Text} {stops : List Text} {offset : Nat}
    (h : .capture name stops offset ∈ leaves segments) : ∀ stop ∈ stops, stop ∈ marks := by
  induction segments using nestedInduction generalizing next with
  | nil => cases h
  | cons segment rest hinner ih =>
    obtain ⟨hfirst, hrest⟩ := spelledIn_cons.1 hspelled
    obtain ⟨hsegment, hothers⟩ := withStops_cons_eq_self hstops
    have hnext := (within_heads hrest).followedBy hwithin
    rcases List.mem_append.1 h with h | h
    · cases segment with
      | capture name' stops' offset' =>
        obtain ⟨rfl, rfl, rfl⟩ := Segment.capture.inj (List.mem_singleton.1 h)
        intro stop hstop
        rw [(Segment.withStops_capture_eq_self hsegment).2] at hstop
        exact (hnext stop (List.mem_eraseDups.1 hstop)).2
      | group inner =>
        exact hinner inner rfl (Segment.withStops_group_eq_self hsegment)
          (spelledIn_group.1 hfirst) hnext h
      | literal _ | choice _ | bare => simp [Segment.leaves] at h
    · exact ih hothers hrest hwithin h

end Segments

namespace Template.Item

theorem Spells.inChoice {items : List Item} {t before behind : Text} (h : Spells items t)
    (ht : t = before ++ '?' :: behind) : InChoice before behind := by
  induction h generalizing before behind with
  | nil => simp at ht
  | @plain c items t hc _ ih =>
    cases before with
    | nil =>
      obtain ⟨rfl, -⟩ := List.cons.inj ht
      cases hc
    | cons d before =>
      obtain ⟨rfl, htail⟩ := List.cons.inj ht
      simpa using (ih htail).append [c] []
  | @capture name items t hname _ _ ih =>
    rcases Text.append_eq_append_cons ht with ⟨w, rfl, htail⟩ | ⟨w, hmarked, -⟩
    · simpa using (ih htail).append ('$' :: name) []
    · have hmem : '?' ∈ '$' :: name := by simp [hmarked]
      have hchar := isNameChar_of_isIdentifier hname '?'
        ((List.mem_cons.1 hmem).resolve_left (by decide))
      cases hchar
  | @choice body items t _ hbody _ ih =>
    rcases Text.append_eq_append_cons ht with ⟨w, rfl, htail⟩ | ⟨w, hmarked, rfl⟩
    · simpa using (ih htail).append ('(' :: body ++ [')']) []
    · cases before with
      | nil =>
        obtain ⟨hparen, -⟩ := List.cons.inj hmarked
        cases hparen
      | cons d left =>
        obtain ⟨rfl, hinside⟩ := List.cons.inj hmarked
        replace hinside : body ++ [')'] = left ++ '?' :: w := hinside
        rcases Text.append_eq_append_cons hinside with ⟨u, -, hlast⟩ | ⟨right, rfl, rfl⟩
        · have hmem : '?' ∈ [')'] := by simp [hlast]
          simp at hmem
        · refine ⟨[], left, right, t, rfl, by simp, ?_⟩
          intro c hc
          refine hbody c ?_
          rcases List.mem_append.1 hc with hc | hc
          · exact List.mem_append_left _ hc
          · exact List.mem_append_right _ (List.mem_cons_of_mem _ hc)
  | @group inner items u t _ _ _ ihinner ih =>
    cases before with
    | nil =>
      obtain ⟨hbracket, -⟩ := List.cons.inj ht
      cases hbracket
    | cons d before =>
      obtain ⟨rfl, hinside⟩ := List.cons.inj ht
      replace hinside : u ++ ']' :: t = before ++ '?' :: behind := hinside
      rcases Text.append_eq_append_cons hinside with ⟨w, rfl, hrest⟩ | ⟨w, hu, rfl⟩
      · cases w with
        | nil =>
          obtain ⟨hbracket, -⟩ := List.cons.inj hrest
          cases hbracket
        | cons d w =>
          obtain ⟨rfl, htail⟩ := List.cons.inj hrest
          simpa using (ih htail).append ('[' :: u ++ [']']) []
      · exact (ihinner hu).append ['['] (']' :: t)

theorem Spells.mentions_iff {items : List Item} {t : Text} (h : Spells items t) :
    (mirrored items).Mentions '?' ↔ '?' ∈ t := by
  induction h with
  | nil => simp [mirrored, Segments.Mentions, Segments.spelled]
  | @plain c items t hc _ ih =>
    have hne : '?' ≠ c := by
      rintro rfl
      cases hc
    rw [mirrored, mirroredBefore, Segments.mentions_withChar, ih, List.mem_cons]
  | @capture name items t hname _ _ ih =>
    have hnone : '?' ∉ name := fun hmem => by
      cases isNameChar_of_isIdentifier hname '?' hmem
    rw [mirrored, mirroredBefore, Segments.mentions_cons, ih]
    simp [Segment.spelled, hnone]
  | @choice body items t _ _ _ ih =>
    rw [mirrored, mirroredBefore, Segments.mentions_cons, ih]
    simp [Segment.spelled, exists_mem_options_iff (show '?' ≠ '|' by decide)]
  | @group inner items u t _ _ _ ihinner ih =>
    rw [mirrored, mirroredBefore, Segments.mentions_cons, ih]
    show (mirrored inner).Mentions '?' ∨ '?' ∈ t ↔ _
    rw [ihinner]
    simp

end Template.Item

namespace Pattern

variable {template : Text} {p : Pattern}

/-- A compiled pattern mentions a question mark if what its template is written with, but for a
query separator at the end, holds one. -/
theorem exists_spells_of_compile (h : compile template = .ok p) :
    ∃ items t, Template.Item.Spells items t ∧ (template = t ∨ template = t ++ ['?']) ∧
      (p.segments.Mentions '?' ↔ '?' ∈ t) := by
  obtain ⟨items, t, hspells, htemplate, hmirrors⟩ := exists_mirrored_of_compile h
  refine ⟨items, t, hspells, htemplate, ?_⟩
  rw [← hspells.mentions_iff, ← hmirrors]
  simp only [Segments.Mentions, Segments.spelled_withoutOffsets, Segments.spelled_withoutStops]

/-- A question mark of a template that compiles ends the template or stands in a choice. Each of
them ends the template exactly if no literal and no option of the pattern holds one. The literals
hold none in any case, and the stops are literals and options, whereas a path never holds one. -/
theorem compile_question_marks (h : compile template = .ok p) :
    (∀ before behind, template = before ++ '?' :: behind →
      behind = [] ∨ Template.InChoice before behind) ∧
    ((∀ before behind, template = before ++ '?' :: behind → behind = []) ↔
      ∀ text ∈ Segments.spelled p.segments, '?' ∉ text) ∧
    (∀ text, .literal text ∈ Segments.leaves p.segments → '?' ∉ text) ∧
    (∀ name stops offset, .capture name stops offset ∈ Segments.leaves p.segments →
      ∀ stop ∈ stops, stop ∈ Segments.spelled p.segments) ∧
    ∀ text, '?' ∉ (Query.extract text).1 := by
  obtain ⟨items, t, hspells, htemplate, hmentions⟩ := exists_spells_of_compile h
  have hmark : ∀ before behind, template = before ++ '?' :: behind →
      (behind = [] ∧ template = t ++ ['?'] ∧ t = before) ∨
        ∃ w, t = before ++ '?' :: w ∧ ∃ rest, behind = w ++ rest := by
    intro before behind heq
    rcases htemplate with rfl | rfl
    · exact Or.inr ⟨behind, heq, [], (List.append_nil behind).symm⟩
    · rcases Text.append_eq_append_cons heq with ⟨w, hbefore, hlast⟩ | ⟨w, ht, hbehind⟩
      · cases w with
        | nil => exact Or.inl ⟨by simpa using hlast, rfl, by simpa using hbefore.symm⟩
        | cons d w => simp at hlast
      · exact Or.inr ⟨w, ht, ['?'], hbehind⟩
  refine ⟨?_, ⟨?_, ?_⟩, ?_, ?_, fun text => Text.not_mem_before '?' text⟩
  · intro before behind heq
    rcases hmark before behind heq with ⟨hnil, -⟩ | ⟨w, ht, rest, rfl⟩
    · exact Or.inl hnil
    · exact Or.inr (by simpa using (hspells.inChoice ht).append [] rest)
  · intro hends text htext hmem
    obtain ⟨before, w, ht⟩ := List.append_of_mem (hmentions.1 ⟨text, htext, hmem⟩)
    obtain ⟨-, -, right, v, -, rfl, -⟩ := hspells.inChoice ht
    rcases htemplate with rfl | rfl
    · simpa using hends before _ ht
    · simpa using hends before (right ++ ')' :: v ++ ['?']) (by simp [ht])
  · intro hnone before behind heq
    rcases hmark before behind heq with ⟨hnil, -⟩ | ⟨w, ht, -⟩
    · exact hnil
    · obtain ⟨text, htext, hmem⟩ := hmentions.2 (by simp [ht])
      exact absurd hmem (hnone text htext)
  · intro text hliteral hmem
    exact absurd ((literal_compile h hliteral).2 '?' hmem) (by decide)
  · intro name stops offset hcapture
    obtain ⟨-, -, hstops⟩ := compile_eq_ok h
    exact Segments.mem_of_mem_stops hstops
      ⟨fun _ htext => htext, fun _ htext => (literal_compile h htext).1⟩
      (by simp [Heads.Within, Heads.nothing]) hcapture

/-- Of two question marks one stands in a choice and one ends the template, so that not every one
of them ends it. -/
theorem compile_question_marks_both :
    let template : Text := ['$', 'A', '(', 'b', '?', ')', 'c', '?']
    let p : Pattern :=
      ⟨template, [.capture ['A'] [['b', '?'], ['c']] 0, .choice [['b', '?'], []], .literal ['c']]⟩
    compile template = .ok p ∧ Template.InChoice ['$', 'A', '(', 'b'] [')', 'c', '?'] ∧
      (¬ ∀ before behind, template = before ++ '?' :: behind → behind = []) ∧ '?' ∉ ['c'] := by
  intro template p
  have h : compile template = .ok p := rfl
  obtain ⟨hmark, hends, hliteral, -, -⟩ := compile_question_marks h
  refine ⟨h, (hmark _ _ rfl).resolve_left (List.cons_ne_nil _ _), ?_, ?_⟩
  · intro hall
    exact hends.1 hall ['b', '?'] (by decide) (by decide)
  · exact hliteral ['c'] (by decide)

/-- A template that compiles although its question mark does not end it. An option and a stop hold
the question mark. -/
theorem compile_question_in_choice :
    let template : Text := ['$', 'A', '(', 'b', '?', '|', 'c', ')']
    let p : Pattern :=
      ⟨template, [.capture ['A'] [['b', '?'], ['c']] 0, .choice [['b', '?'], ['c']]]⟩
    compile template = .ok p ∧
      (¬ ∀ before behind, template = before ++ '?' :: behind → behind = []) ∧
      (∃ options, .choice options ∈ Segments.leaves p.segments ∧ ∃ option ∈ options, '?' ∈ option) ∧
      ∃ name stops offset, .capture name stops offset ∈ Segments.leaves p.segments ∧
        ∃ stop ∈ stops, '?' ∈ stop := by
  intro template p
  refine ⟨rfl, ?_, ?_, ?_⟩
  · intro hends
    exact absurd (hends ['$', 'A', '(', 'b'] ['|', 'c', ')'] rfl) (List.cons_ne_nil _ _)
  · exact ⟨[['b', '?'], ['c']], by decide, ['b', '?'], by decide, by decide⟩
  · exact ⟨['A'], [['b', '?'], ['c']], 0, by decide, ['b', '?'], by decide, by decide⟩

end Pattern

end DsnBinding
