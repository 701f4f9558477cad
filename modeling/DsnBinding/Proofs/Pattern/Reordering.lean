import DsnBinding.Proofs.Pattern.Rewriting

/-!
The order of options and stops. A choice takes the longest option that fits, of which there is one,
and a capture ends where the first of its stops begins, whichever it is. So neither the order in
which options are declared nor the order of stops is seen in what matching does, in a group that is
undone again no more than elsewhere; only the reason of a mismatch lists the options in their order.
-/
namespace DsnBinding

/-- The same choice with its options in another order, or the same capture with its stops in another
order. -/
inductive Segment.Reorders : Segment → Segment → Prop
  | choice {options options' : List Text} (h : options.Perm options') :
      Segment.Reorders (.choice options) (.choice options')
  | capture (name : Text) {stops stops' : List Text} (offset : Nat) (h : stops.Perm stops') :
      Segment.Reorders (.capture name stops offset) (.capture name stops' offset)

section Perm

variable {options options' : List Text}

theorem Text.upTo_perm (h : options.Perm options') (t : Text) :
    Text.upTo options t = Text.upTo options' t := by
  induction t with
  | nil => rfl
  | cons c t ih => rw [Text.upTo, Text.upTo, h.any_eq, ih]

/-- Two options of the same length that fit the same text are equal, so that there is one longest
option that fits. -/
theorem find?_longestFirst_perm (h : options.Perm options') (t : Text) :
    (longestFirst options).find? (·.isPrefixOf t) =
      (longestFirst options').find? (·.isPrefixOf t) := by
  cases hfound : (longestFirst options).find? (·.isPrefixOf t) with
  | none =>
    refine (List.find?_eq_none.2 fun option hoption => ?_).symm
    have hmem : option ∈ options := h.mem_iff.2 ((longestFirst_perm options').mem_iff.1 hoption)
    exact List.find?_eq_none.1 hfound option ((longestFirst_perm options).mem_iff.2 hmem)
  | some option =>
    obtain ⟨hmem, hfits, hlongest⟩ := find?_longestFirst_eq_some hfound
    refine (find?_longestFirst_of_longest (h.mem_iff.1 hmem) (List.isPrefixOf_iff_prefix.1 hfits)
      ?_).symm
    intro other hother hfitsOther
    exact hlongest other (h.mem_iff.2 hother) (List.isPrefixOf_iff_prefix.2 hfitsOther)

end Perm

theorem Segment.Reorders.matchesLike {a b : Segment} (h : a.Reorders b) : a.MatchesLike b := by
  cases h with
  | @choice options options' hperm =>
    refine ⟨rfl, rfl, ?_, ?_⟩
    · intro t
      rw [starts?, starts?, hperm.any_eq, hperm.any_eq]
    · intro s
      rw [consume, consume, find?_longestFirst_perm hperm]
      split
      · exact .ok s
      · exact .ok _
      · exact .error s (.mismatch rfl rfl)
  | @capture name stops stops' offset hperm =>
    refine ⟨rfl, rfl, ?_, ?_⟩
    · intro t
      rw [starts?, starts?, Text.upTo_perm hperm]
    · intro s
      have hcapture : s.capture name stops = s.capture name stops' := by
        rw [Cursor.capture, Cursor.capture, Text.upTo_perm hperm]
      rw [consume, consume, hcapture]
      exact .ok _

namespace Pattern

/-- A pattern and another one with options and stops in another order, at any depth, come to the
same outcome for every text, or to a mismatch with the same code and offset at the same cursor. -/
theorem run_reordered {p p' : Pattern} (hbare : Segment.bare ∉ Segments.leaves p.segments)
    (h : Segments.Rewrites Segment.Reorders p.segments p'.segments) (text : Text) :
    (∃ o, p.run text = .ok o ∧ p'.run text = .ok o) ∨
      ∃ s m m', p.run text = .error ⟨s, .mismatch m⟩ ∧ p'.run text = .error ⟨s, .mismatch m'⟩ ∧
        m'.code = m.code ∧ m'.offset = m.offset :=
  outcome_or_mismatch_of_alike hbare (run_alike (fun _ _ hab => hab.matchesLike) h text)

/-- The inner group is undone for the first text, and for the second its choice does not fit behind
a literal that does. -/
theorem run_reordered_nested_group :
    let p : Pattern := ⟨[], [.capture ['A'] [['/'], [':']] 0,
      .group [.choice [[':'], [':', ':'], ['/']], .group [.capture ['B'] [['#'], ['@']] 9,
        .literal ['#'], .choice [['x'], ['x', 'y']]], .capture ['B'] [] 20]]⟩
    let p' : Pattern := ⟨[], [.capture ['A'] [[':'], ['/']] 0,
      .group [.choice [['/'], [':'], [':', ':']], .group [.capture ['B'] [['@'], ['#']] 9,
        .literal ['#'], .choice [['x', 'y'], ['x']]], .capture ['B'] [] 20]]⟩
    let text : Text := ['a', ':', ':', 'b', '@', 'c']
    let text' : Text := ['a', ':', 'b', '#', 'z']
    let o : Outcome := ⟨⟨[(['A'], ['a']), (['B'], ['b', '@', 'c'])]⟩, [], 6, 1⟩
    Segment.bare ∉ Segments.leaves p.segments ∧
      Segments.Rewrites Segment.Reorders p.segments p'.segments ∧
      p.run text = .ok o ∧ p'.run text = .ok o ∧
      ∃ s m m', p.run text' = .error ⟨s, .mismatch m⟩ ∧ p'.run text' = .error ⟨s, .mismatch m'⟩ ∧
        m'.code = m.code ∧ m'.offset = m.offset ∧ m'.reason ≠ m.reason := by
  intro p p' text text' o
  have hbare : Segment.bare ∉ Segments.leaves p.segments := by decide
  have hchoice : [[':'], [':', ':'], ['/']].Perm [['/'], [':'], [':', ':']] := by decide
  have h : Segments.Rewrites Segment.Reorders p.segments p'.segments :=
    .step (.capture _ 0 (.swap _ _ [])) (.inside
      (.step (.choice hchoice) (.inside
        (.step (.capture _ 9 (.swap _ _ [])) (.keep _ (.step (.choice (.swap _ _ [])) .nil)))
        (.refl _))) .nil)
  have hrun : p.run text = .ok o := rfl
  have hsame : p'.run text = .ok o := by
    rcases run_reordered hbare h text with ⟨o', ho, ho'⟩ | ⟨_, _, _, ho, -⟩
    · rw [ho', ← ho, hrun]
    · cases hrun.symm.trans ho
  refine ⟨hbare, h, hrun, hsame, ?_⟩
  rcases run_reordered hbare h text' with ⟨_, ho, -⟩ | ⟨s, m, m', hm, hm', hcode, hoffset⟩
  · cases ho
  · refine ⟨s, m, m', hm, hm', hcode, hoffset, ?_⟩
    cases hm
    cases hm'
    decide

end Pattern

end DsnBinding
