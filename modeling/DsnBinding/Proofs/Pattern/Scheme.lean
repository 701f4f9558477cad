import DsnBinding.Proofs.Pattern.Derivation
import DsnBinding.Proofs.Segment
import Mathlib.Data.List.Infix

/-!
The scheme of a matched text. It is what stands in front of the first mark in the text that the lead
of the pattern consumed, and so in front of the first mark in the whole text, whatever stands behind
the lead. If a literal of the lead holds the mark and no colon can stand before it, the scheme ends in
that literal, together with the mark.
-/
namespace DsnBinding

namespace Text

theorem includes_iff {t mark : Text} : t.includes mark = true ↔ mark <:+: t := by
  induction t with
  | nil => simp [includes]
  | cons c t ih => simp [includes, ih, List.infix_cons_iff]

theorem EndsAtStop.not_infix {stop t piece : Text} (h : EndsAtStop [stop] t piece) (hne : stop ≠ []) :
    ¬ stop <:+: piece := by
  intro hsome
  obtain ⟨a, b, hpiece⟩ := hsome
  obtain ⟨rest, hrest⟩ := h.isPrefix
  have hlt : a.length < piece.length := by
    have hpos : 0 < stop.length := List.length_pos_iff.2 hne
    rw [← hpiece]
    simp only [List.length_append]
    omega
  apply h.before a.length hlt stop (List.mem_singleton.2 rfl)
  rw [← hrest, ← hpiece, List.append_assoc, List.append_assoc, List.drop_left]
  exact List.prefix_append stop _

/-- Wherever the stop stands, the piece ends there or before. -/
theorem EndsAtStop.isPrefix_of_stop {stop piece before behind : Text}
    (h : EndsAtStop [stop] (before ++ stop ++ behind) piece) : piece <+: before := by
  have hbefore : before <+: before ++ stop ++ behind := by
    rw [List.append_assoc]
    exact List.prefix_append before _
  refine List.prefix_of_prefix_length_le h.isPrefix hbefore (Nat.le_of_not_lt fun hlt => ?_)
  apply h.before before.length hlt stop (List.mem_singleton.2 rfl)
  rw [List.append_assoc, List.drop_left]
  exact List.prefix_append stop behind

theorem EndsAtStop.of_isPrefix {stop t text piece : Text} (h : EndsAtStop [stop] t piece)
    (hstop : piece ++ stop <+: t) (ht : t <+: text) : EndsAtStop [stop] text piece := by
  obtain ⟨rest, rfl⟩ := hstop.trans ht
  refine ⟨h.isPrefix.trans ht, ?_, Or.inr ⟨stop, List.mem_singleton.2 rfl, ?_⟩⟩
  · intro i hi stop' hmem hfits
    obtain rfl := List.mem_singleton.1 hmem
    apply h.before i hi stop' hmem
    -- The stop would begin in the piece, so that it would lie within the part of the text.
    refine List.prefix_of_prefix_length_le hfits (ht.drop i) ?_
    have hlength := hstop.length_le
    rw [List.length_append] at hlength
    rw [List.length_drop]
    omega
  · rw [List.append_assoc, List.drop_left]
    exact List.prefix_append stop rest

end Text

theorem schemeMark_ne_nil : schemeMark ≠ [] := by decide

theorem schemeOf_endsAtStop {t : Text} (h : schemeOf t ≠ []) :
    Text.EndsAtStop [schemeMark] t (schemeOf t) ∧ schemeOf t ++ schemeMark <+: t := by
  have hincludes : t.includes schemeMark = true := by
    refine Decidable.byContradiction fun hnot => h ?_
    rw [schemeOf, if_neg hnot]
  have heq : schemeOf t = t.upTo [schemeMark] := by
    rw [schemeOf, if_pos hincludes]
  have hends := Text.upTo_endsAtStop [schemeMark] t
  rw [heq]
  refine ⟨hends, ?_⟩
  rcases hends.behind with hall | ⟨stop, hstop, hbehind⟩
  · have hnot := hends.not_infix schemeMark_ne_nil
    rw [hall] at hnot
    exact absurd (Text.includes_iff.1 hincludes) hnot
  · obtain rfl := List.mem_singleton.1 hstop
    obtain ⟨rest, hrest⟩ := hends.isPrefix
    generalize t.upTo [schemeMark] = piece at hbehind hrest
    subst hrest
    rw [List.drop_left] at hbehind
    exact (List.prefix_append_right_inj piece).2 hbehind

/-- There is no scheme without a mark, nor in front of a mark that begins the text. -/
theorem schemeOf_eq_nil_iff {t : Text} :
    schemeOf t = [] ↔ ¬ schemeMark <:+: t ∨ schemeMark <+: t := by
  constructor
  · intro hnil
    by_cases hmark : schemeMark <:+: t
    · rw [schemeOf, if_pos (Text.includes_iff.2 hmark)] at hnil
      have hends := Text.upTo_endsAtStop [schemeMark] t
      rw [hnil] at hends
      rcases hends.behind with rfl | ⟨stop, hstop, hbegins⟩
      · exact absurd (List.infix_nil.1 hmark) schemeMark_ne_nil
      · exact Or.inr (List.mem_singleton.1 hstop ▸ hbegins)
    · exact Or.inl hmark
  · intro h
    refine Decidable.byContradiction fun hne => ?_
    obtain ⟨hends, hmarked⟩ := schemeOf_endsAtStop hne
    rcases h with hnone | hbegins
    · exact hnone ((List.suffix_append _ _).isInfix.trans hmarked.isInfix)
    · exact hends.before 0 (List.length_pos_iff.2 hne) schemeMark (List.mem_singleton.2 rfl) hbegins

/-- Behind a text without colon, a scheme reaches into the text that holds the first mark. -/
theorem exists_eq_append_of_mark {t v w scheme : Text}
    (hends : Text.EndsAtStop [schemeMark] t scheme) (hscheme : scheme ++ schemeMark <+: t)
    (hcolon : ':' ∉ v) (hbegins : v ++ w <+: t) (hmark : schemeMark <:+: w) :
    ∃ left, scheme = v ++ left ∧ left ++ schemeMark <+: w := by
  have hv : v <+: scheme := by
    apply List.prefix_of_prefix_length_le ((List.prefix_append v w).trans hbegins) hends.isPrefix
    refine Decidable.byContradiction fun hlong => hcolon ?_
    have hshort : (scheme ++ [':']).length ≤ v.length := by
      rw [List.length_append, List.length_singleton]
      omega
    have hcolonFits : scheme ++ [':'] <+: t :=
      ((List.prefix_append_right_inj scheme).2 (by decide)).trans hscheme
    have hsub := List.prefix_of_prefix_length_le hcolonFits
      ((List.prefix_append v w).trans hbegins) hshort
    exact hsub.subset (List.mem_append_right _ (List.mem_singleton.2 rfl))
  obtain ⟨left, rfl⟩ := hv
  refine ⟨left, rfl, ?_⟩
  obtain ⟨a, b, rfl⟩ := hmark
  obtain ⟨rest, rfl⟩ := hbegins
  have hsplit : v ++ (a ++ schemeMark ++ b) ++ rest = (v ++ a) ++ schemeMark ++ (b ++ rest) := by
    simp only [List.append_assoc]
  have hnotBefore : (v ++ left).length ≤ (v ++ a).length := by
    rw [hsplit] at hends
    exact hends.isPrefix_of_stop.length_le
  rw [List.append_assoc, List.append_assoc, List.prefix_append_right_inj] at hscheme
  apply List.prefix_of_prefix_length_le hscheme (List.prefix_append _ rest)
  simp only [List.length_append] at hnotBefore ⊢
  omega

namespace Segments

theorem Derives.mem_spelled {lead : Segments} {t : Text} {pieces : Pieces} {c : Char}
    (h : Derives lead t pieces) (hfixed : ∀ segment ∈ lead, segment.isFixed = true)
    (hc : c ∈ Pieces.text pieces) : ∃ text ∈ spelled lead, c ∈ text := by
  induction lead generalizing t pieces with
  | nil =>
    cases h
    cases hc
  | cons segment rest ih =>
    cases h with | @cons _ _ t piece pieces first hrest =>
    rcases List.mem_append.1 hc with hc | hc
    · cases first with
      | @literal text _ _ => exact ⟨text, List.mem_append_left _ (List.mem_singleton.2 rfl), hc⟩
      | @choice options option _ hmem _ _ => exact ⟨option, List.mem_append_left _ hmem, hc⟩
      | capture _ | present _ | absent _ _ =>
        exact absurd (hfixed _ List.mem_cons_self) (by simp [Segment.isFixed])
    · obtain ⟨text, htext, hmem⟩ :=
        ih hrest (fun other hother => hfixed other (List.mem_cons_of_mem segment hother)) hc
      exact ⟨text, List.mem_append_right _ htext, hmem⟩

theorem Derives.of_append {a b : Segments} {t : Text} {pieces : Pieces}
    (h : Derives (a ++ b) t pieces) : ∃ piecesA piecesB u, pieces = piecesA ++ piecesB ∧
      t = Pieces.text piecesA ++ u ∧ Derives a t piecesA ∧ Derives b u piecesB := by
  induction a generalizing t pieces with
  | nil => exact ⟨[], pieces, t, rfl, rfl, .nil t, h⟩
  | cons segment rest ih =>
    cases h with | @cons _ _ t piece pieces first hrest =>
    obtain ⟨piecesA, piecesB, u, rfl, rfl, ha, hb⟩ := ih hrest
    refine ⟨piece :: piecesA, piecesB, u, rfl, ?_, .cons first ha, hb⟩
    rw [Pieces.text, List.append_assoc]

end Segments

namespace Pattern

theorem isFixed_of_mem_lead {pattern : Pattern} {segment : Segment} (h : segment ∈ pattern.lead) :
    segment.isFixed = true :=
  List.all_eq_true.1 (List.all_takeWhile ..) segment h

theorem lead_eq {pattern : Pattern} {lead behind : Segments}
    (hsegments : pattern.segments = lead ++ behind)
    (hlead : ∀ segment ∈ lead, segment.isFixed = true)
    (hbehind : ∀ segment ∈ behind.head?, segment.isFixed = false) : pattern.lead = lead := by
  rw [Pattern.lead, hsegments, List.takeWhile_append_of_pos hlead]
  cases behind with
  | nil => exact List.append_nil lead
  | cons segment behind =>
    rw [List.takeWhile_cons_of_neg (by simp [hbehind segment rfl]), List.append_nil]

/-- The scheme depends on nothing but what the lead consumed. -/
theorem scheme_of_consumed {pattern : Pattern} {text consumed : Text} {o : Outcome} {s : Cursor}
    (h : pattern.run text = .ok o) (hs : Segments.consume pattern.lead (Cursor.start text) = .ok s)
    (htext : text = consumed ++ s.rest) : o.scheme = schemeOf consumed := by
  obtain ⟨lead, _, hlead, -, -, rfl⟩ := run_eq_ok h
  obtain rfl : lead = s := Except.ok.inj (hlead.symm.trans hs)
  obtain ⟨pieces, -, hadvances⟩ := Segments.exists_derives pattern.lead hlead
  have hrest : text = Pieces.text pieces ++ lead.rest := hadvances.rest
  obtain rfl : consumed = Pieces.text pieces := List.append_cancel_right (htext.symm.trans hrest)
  have hposition : lead.position = (Pieces.text pieces).length := by
    simpa [Cursor.start] using hadvances.position
  show schemeOf (text.take lead.position) = schemeOf (Pieces.text pieces)
  rw [hposition, hrest, List.take_left]

/-- The scheme of a match is that of the text that its lead derives. -/
theorem run_scheme {pattern : Pattern} {text : Text} {o : Outcome} (h : pattern.run text = .ok o) :
    ∃ pieces, Segments.Derives pattern.lead text pieces ∧ Pieces.text pieces <+: text ∧
      o.scheme = schemeOf (Pieces.text pieces) := by
  obtain ⟨lead, _, hlead, -⟩ := run_eq_ok h
  obtain ⟨pieces, hderives, hadvances⟩ := Segments.exists_derives pattern.lead hlead
  exact ⟨pieces, hderives, ⟨lead.rest, hadvances.rest.symm⟩,
    scheme_of_consumed h hlead hadvances.rest⟩

/-- The scheme of a match is what stands in front of the first mark in the text, unless the lead of
the pattern consumed no mark or a mark at once, in which case it is empty. So it depends on nothing
behind what the lead consumed, neither in the pattern nor in the text. -/
theorem run_scheme_first_mark {pattern : Pattern} {lead behind : Segments} {text : Text}
    {o : Outcome} (hsegments : pattern.segments = lead ++ behind)
    (hlead : ∀ segment ∈ lead, segment.isFixed = true)
    (hbehind : ∀ segment ∈ behind.head?, segment.isFixed = false) (h : pattern.run text = .ok o) :
    ∃ consumed s, Segments.consume lead (Cursor.start text) = .ok s ∧ text = consumed ++ s.rest ∧
      (o.scheme = [] ↔ ¬ schemeMark <:+: consumed ∨ schemeMark <+: consumed) ∧
      (o.scheme ≠ [] → (∃ rest, text = o.scheme ++ schemeMark ++ rest) ∧
        ¬ schemeMark <:+: o.scheme ∧
        ∀ before rest, text = before ++ schemeMark ++ rest → o.scheme <+: before) ∧
      ∀ (pattern' : Pattern) behind' text' o' s', pattern'.segments = lead ++ behind' →
        (∀ segment ∈ behind'.head?, segment.isFixed = false) → pattern'.run text' = .ok o' →
        Segments.consume lead (Cursor.start text') = .ok s' → text' = consumed ++ s'.rest →
        o'.scheme = o.scheme := by
  obtain ⟨s, _, hs, -⟩ := run_eq_ok h
  obtain ⟨pieces, -, hadvances⟩ := Segments.exists_derives pattern.lead hs
  have htext : text = Pieces.text pieces ++ s.rest := hadvances.rest
  have hscheme := scheme_of_consumed h hs htext
  rw [lead_eq hsegments hlead hbehind] at hs
  refine ⟨Pieces.text pieces, s, hs, htext, ?_, ?_, ?_⟩
  · rw [hscheme, schemeOf_eq_nil_iff]
  · intro hne
    rw [hscheme] at hne ⊢
    obtain ⟨hends, hmarked⟩ := schemeOf_endsAtStop hne
    have hbegins : Pieces.text pieces <+: text := ⟨s.rest, htext.symm⟩
    have hfirst := hends.of_isPrefix hmarked hbegins
    obtain ⟨rest, hrest⟩ := hmarked.trans hbegins
    refine ⟨⟨rest, hrest.symm⟩, hends.not_infix schemeMark_ne_nil, ?_⟩
    rintro before rest rfl
    exact hfirst.isPrefix_of_stop
  · intro pattern' behind' text' o' s' hsegments' hbehind' h' hs' htext'
    rw [← lead_eq hsegments' hlead hbehind'] at hs'
    rw [hscheme, scheme_of_consumed h' hs' htext']

/-- The mark is made of an option, the option that follows it and a literal, and stands in the text
a second time. -/
theorem run_scheme_first_mark_across_segments :
    let lead : Segments := [.choice [['a'], ['a', ':']], .choice [['/'], []], .literal ['/', 'h']]
    let behind : Segments := [.capture ['P'] [] 12]
    let text : Text := ['a', ':', '/', '/', 'h', ':', '/', '/']
    let o : Outcome := ⟨⟨[(['P'], [':', '/', '/'])]⟩, ['a'], 8, 3⟩
    Pattern.run ⟨[], lead ++ behind⟩ text = .ok o ∧ ∃ consumed s,
      Segments.consume lead (Cursor.start text) = .ok s ∧ text = consumed ++ s.rest ∧
      ¬ (¬ schemeMark <:+: consumed ∨ schemeMark <+: consumed) ∧
      (∃ rest, text = o.scheme ++ schemeMark ++ rest) ∧ ¬ schemeMark <:+: o.scheme ∧
      ∀ before rest, text = before ++ schemeMark ++ rest → o.scheme <+: before := by
  intro lead behind text o
  have h : Pattern.run ⟨[], lead ++ behind⟩ text = .ok o := rfl
  have hne : o.scheme ≠ [] := List.cons_ne_nil _ _
  obtain ⟨consumed, s, hs, htext, hempty, hmark, -⟩ :=
    @run_scheme_first_mark ⟨[], lead ++ behind⟩ lead behind text o rfl (by decide) (by decide) h
  exact ⟨h, consumed, s, hs, htext, fun hnone => hne (hempty.2 hnone), hmark hne⟩

/-- If no colon can stand before a literal that holds the mark, what is left of the scheme behind
the segments before the literal stands in the literal, together with the mark. -/
theorem run_scheme_of_literal {pattern : Pattern} {path text : Text} {o : Outcome} {a b : Segments}
    (hrun : pattern.run path = .ok o) (hne : o.scheme ≠ [])
    (hlead : pattern.lead = a ++ .literal text :: b) (hmark : schemeMark <:+: text)
    (hcolon : ∀ t ∈ Segments.spelled a, ':' ∉ t) :
    ∃ pieces left, Segments.Derives a path pieces ∧ Pieces.text pieces ++ left <+: path ∧
      o.scheme = Pieces.text pieces ++ left ∧ left ++ schemeMark <+: text := by
  obtain ⟨pieces, hderives, hbegins, hscheme⟩ := run_scheme hrun
  rw [hscheme] at hne
  obtain ⟨hends, hmarked⟩ := schemeOf_endsAtStop hne
  have hfixed : ∀ segment ∈ a, segment.isFixed = true := by
    intro segment hsegment
    exact isFixed_of_mem_lead (hlead ▸ List.mem_append_left _ hsegment)
  rw [hlead] at hderives
  obtain ⟨piecesA, piecesB, u, rfl, rfl, ha, hb⟩ := hderives.of_append
  cases hb with | @cons _ _ u piece piecesB first _ =>
  cases first
  have hbefore : ':' ∉ Pieces.text piecesA := by
    intro hmem
    obtain ⟨t, ht, hmem⟩ := ha.mem_spelled hfixed hmem
    exact hcolon t ht hmem
  have hreach : Pieces.text piecesA ++ text <+: Pieces.text (piecesA ++ .literal text :: piecesB) := by
    rw [Pieces.text_append, List.prefix_append_right_inj]
    exact List.prefix_append text _
  obtain ⟨left, hleft, hcomplete⟩ := exists_eq_append_of_mark hends hmarked hbefore hreach hmark
  refine ⟨piecesA, left, ha, ?_, hscheme.trans hleft, hcomplete⟩
  rw [← hleft]
  exact hends.isPrefix.trans hbegins

end Pattern

end DsnBinding
