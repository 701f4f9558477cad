import DsnBinding.Proofs.Pattern.Narrowing

/-!
Where a sequence with stops is met. A capture runs on to its first stop, and a head that can follow
it with nothing spelled out in between is one of its stops. So where a head begins, all that is
found before it without an anchor is empty, the head comes next, and an anchor is found.
-/
namespace DsnBinding

namespace Segments

/-- What is found without an anchor can be empty, unless a capture can come first. -/
theorem Finds.empty_of_anchors {segments : Segments} {t : Text} {pieces : Pieces}
    (h : Finds segments t pieces) (hanchors : Pieces.anchors pieces = 0)
    (hcapture : (heads segments).capture = false) : (heads segments).empty = true := by
  induction segments generalizing t pieces with
  | nil => rfl
  | cons segment rest ih =>
    cases h with | @cons _ _ u piece pieces first others =>
    rw [heads] at hcapture ⊢
    obtain ⟨hsegment, hrest⟩ := Heads.capture_followedBy.1 hcapture
    obtain ⟨hpiece, hpieces⟩ := Nat.add_eq_zero_iff.1 hanchors
    have hempty : segment.heads.empty = true := by
      cases first with
      | leaf hleaf hderives =>
        cases hderives with
        | literal _ => cases hpiece
        | capture _ => cases hsegment
        | @choice options option _ hmem _ _ =>
          have hnil : option = [] := by
            by_contra hne
            simp [Piece.anchors, hne] at hpiece
          exact List.any_eq_true.2 ⟨option, hmem, List.isEmpty_iff.2 hnil⟩
        | @present inner | absent inner => exact absurd rfl (hleaf inner)
      | present _ _ | absent _ | undone _ => rfl
    exact Heads.empty_followedBy.2 ⟨hempty, ih others hpieces (hrest hempty)⟩

end Segments

/-- Where a head of what follows begins, a segment found without an anchor is found empty. -/
theorem Segment.Finds.eq_nil_of_anchors {segment : Segment} {next : Heads} {t : Text}
    {piece : Piece}
    (hinner : ∀ inner pieces, segment = .group inner → Segments.withStops next inner = .ok inner →
      Segments.Finds inner t pieces → Pieces.anchors pieces = 0 → Pieces.text pieces = [])
    (hstops : segment.withStops next = .ok segment) (hnext : next.capture = true ∨ next.Opens t)
    (h : segment.Finds t piece) (hanchors : piece.anchors = 0) : piece.text = [] := by
  cases h with
  | leaf hleaf hderives =>
    cases hderives with
    | literal _ => cases hanchors
    | capture hends =>
      obtain ⟨hcapture, rfl⟩ := withStops_capture_eq_self hstops
      have hopens : next.Opens t := by
        refine hnext.resolve_left ?_
        simp [hcapture]
      rw [Piece.text, hends.unique (Text.upTo_endsAtStop _ t), Heads.upTo_eq_nil_iff]
      exact Or.inr hopens
    | @choice options option _ hmem _ _ =>
      by_contra hne
      have hoption : option ≠ [] := hne
      simp [Piece.anchors, hoption] at hanchors
    | @present inner | absent inner => exact absurd rfl (hleaf inner)
  | @present inner _ pieces _ hfinds =>
    exact hinner inner pieces rfl (withStops_group_eq_self hstops) hfinds hanchors
  | absent _ | undone _ => rfl

namespace Segments

variable {segments : Segments} {next : Heads} {t : Text} {pieces : Pieces}

/-- Where a head of what follows begins, a sequence found without an anchor is found empty. If a
capture can follow, the same holds everywhere: the captures of the sequence that could stand right
before it are refused. -/
theorem Finds.eq_nil_of_anchors (hstops : withStops next segments = .ok segments)
    (hnext : next.capture = true ∨ next.Opens t) (h : Finds segments t pieces)
    (hanchors : Pieces.anchors pieces = 0) : Pieces.text pieces = [] := by
  induction segments using nestedInduction generalizing next t pieces with
  | nil =>
    cases h
    rfl
  | cons segment rest hinner ih =>
    obtain ⟨hsegment, hrest⟩ := withStops_cons_eq_self hstops
    cases h with | @cons _ _ u piece pieces first others =>
    obtain ⟨hpiece, hpieces⟩ := Nat.add_eq_zero_iff.1 hanchors
    -- A capture that comes first behind the segment would not let a capture stand before it;
    -- without one, the rest can be empty, and what follows the sequence follows the segment.
    have hbehind : ((heads rest).followedBy next).capture = true ∨
        ((heads rest).followedBy next).Opens (piece.text ++ u) := by
      cases hcapture : (heads rest).capture with
      | true =>
        left
        by_contra hnone
        rw [Bool.not_eq_true, Heads.capture_followedBy, hcapture] at hnone
        cases hnone.1
      | false =>
        have hempty := others.empty_of_anchors hpieces hcapture
        rcases hnext with hnext | hnext
        · exact Or.inl (by simp [Heads.followedBy, hempty, hnext])
        · exact Or.inr (Heads.opens_followedBy.2 (Or.inr ⟨hempty, hnext⟩))
    have hnil : piece.text = [] := by
      refine first.eq_nil_of_anchors ?_ hsegment hbehind hpiece
      rintro inner pieces rfl hstops hfinds hzero
      exact hinner inner rfl hstops hbehind hfinds hzero
    rw [hnil, List.nil_append] at hnext
    rw [Pieces.text, hnil, ih hrest hnext others hpieces]
    rfl

/-- A sequence is resolved for what can follow it: it has the stops that belong to that, and none of
its literals is empty. -/
structure IsResolved (next : Heads) (segments : Segments) : Prop where
  stops : withStops next segments = .ok segments
  literals : ∀ text, .literal text ∈ leaves segments → text ≠ []

theorem IsResolved.rest {segment : Segment} {rest : Segments}
    (h : IsResolved next (segment :: rest)) : IsResolved next rest where
  stops := (withStops_cons_eq_self h.stops).2
  literals text hmem := h.literals text (List.mem_append_right _ hmem)

theorem IsResolved.inner {inner rest : Segments} (h : IsResolved next (.group inner :: rest)) :
    IsResolved ((heads rest).followedBy next) inner where
  stops := Segment.withStops_group_eq_self (withStops_cons_eq_self h.stops).1
  literals text hmem := h.literals text (List.mem_append_left _ hmem)

/-- Where a head begins, a resolved sequence is met. -/
theorem IsResolved.isMet_of_opens (h : IsResolved next segments)
    (hopens : (heads segments).Opens t) : IsMet segments t := by
  induction segments using nestedInduction generalizing next with
  | nil => exact absurd hopens (by simp [heads, Heads.nothing, Heads.Opens])
  | cons segment rest hinner ih =>
    rw [heads] at hopens
    by_cases hfirst : segment.heads.Opens t
    · refine IsMet.of_first hfirst fun piece hfinds => hfinds.ne_nil_of_opens ?_ ?_ hfirst
      · rintro inner rfl
        exact hinner inner rfl h.inner
      · rintro text rfl
        exact h.literals text (List.mem_append_left _ (List.mem_singleton.2 rfl))
    · obtain ⟨hempty, hopens⟩ := (Heads.opens_followedBy.1 hopens).resolve_left hfirst
      have hbehind : ((heads rest).followedBy next).Opens t :=
        Heads.opens_followedBy.2 (Or.inl hopens)
      obtain ⟨hsegment, -⟩ := withStops_cons_eq_self h.stops
      refine (ih h.rest hopens).of_rest hempty fun piece hfinds hanchors => ?_
      refine hfinds.eq_nil_of_anchors ?_ hsegment (Or.inr hbehind) hanchors
      rintro inner pieces rfl hstops hfinds hzero
      exact hfinds.eq_nil_of_anchors hstops (Or.inr hbehind) hzero

end Segments

end DsnBinding
