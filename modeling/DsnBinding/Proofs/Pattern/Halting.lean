import DsnBinding.Proofs.Pattern.Finding
import Mathlib.Data.List.Chain
import Mathlib.Logic.Function.Iterate

/-!
How matching comes to a halt. Where a segment does not fit, each group that was entered on the way
to it either undoes what it did or wraps the mismatch, and a group that undoes it is never heard of
again. So a mismatch that gets out was wrapped once by every group around the segment that failed,
at the place where that segment failed, and each of these groups had found some text of its own.
-/
namespace DsnBinding

namespace Mismatch

end Mismatch

namespace Segments

theorem bare_of_halt {segments : Segments} {s : Cursor} {halt : Halt}
    (h : consume segments s = .error halt) (hbare : halt.obstacle = .bareSegment) :
    Segment.bare ∈ leaves segments := by
  induction segments using nestedInduction generalizing s halt with
  | nil => cases h
  | cons segment rest hinner ih =>
    unfold consume at h
    split at h
    · exact List.mem_append_right _ (ih h hbare)
    · rename_i halt' hsegment
      obtain rfl := Except.error.inj h
      apply List.mem_append_left
      rcases Segment.consume_eq_error hsegment with ⟨cause, -, rfl⟩ |
        ⟨inner, halt'', rfl, -, hconsume, hleave⟩ | ⟨rfl, -⟩
      · cases hbare
      · rcases Halt.leaveGroup_eq_error hleave with ⟨hobstacle, rfl⟩ | ⟨cause, -, -, rfl⟩
        · exact hinner inner rfl hconsume hobstacle
        · cases hbare
      · exact List.mem_singleton.2 rfl

/-- Matching a sequence comes to a segment: what it found in the sequence itself, what it found in
each of the groups that it entered on the way, from the outside in, and the text that is left. -/
inductive Reaches : Segments → Text → Pieces → List Pieces → Segment → Text → Prop
  | here (segment : Segment) (rest : Segments) (t : Text) :
      Reaches (segment :: rest) t [] [] segment t
  | inside {inner : Segments} {t u : Text} {pieces : Pieces} {groups : List Pieces}
      {segment : Segment} (rest : Segments) (hstart : start t inner = true)
      (h : Reaches inner t pieces groups segment u) :
      Reaches (.group inner :: rest) t [] (pieces :: groups) segment u
  | later {first : Segment} {rest : Segments} {t u : Text} {piece : Piece} {pieces : Pieces}
      {groups : List Pieces} {segment : Segment} (hfirst : first.Finds (piece.text ++ t) piece)
      (h : Reaches rest t pieces groups segment u) :
      Reaches (first :: rest) (piece.text ++ t) (piece :: pieces) groups segment u

/-- Matching a sequence between two cursors comes to a segment and has found an anchor in each of
the groups around it. -/
structure HaltsAt (segments : Segments) (s s' : Cursor) (pieces : Pieces) (groups : List Pieces)
    (segment : Segment) : Prop where
  reaches : Reaches segments s.rest pieces groups segment s'.rest
  position : s'.position + s'.rest.length = s.position + s.rest.length
  rest : s'.rest <:+ s.rest
  anchors : s'.anchors = s.anchors + Pieces.anchors (pieces ++ groups.flatten)
  attempts : ∀ attempt, attempt <:+ groups → attempt ≠ [] → Pieces.anchors attempt.flatten ≠ 0

theorem HaltsAt.inside {inner : Segments} {s s' : Cursor} {pieces : Pieces} {groups : List Pieces}
    {segment : Segment} (h : HaltsAt inner s s' pieces groups segment) (rest : Segments)
    (hstart : start s.rest inner = true) (hanchors : s'.anchors ≠ s.anchors) :
    HaltsAt (.group inner :: rest) s s' [] (pieces :: groups) segment where
  reaches := .inside rest hstart h.reaches
  position := h.position
  rest := h.rest
  anchors := h.anchors
  attempts attempt hsuffix hne := by
    rcases List.suffix_cons_iff.1 hsuffix with rfl | hsuffix
    · intro hzero
      have heq := h.anchors
      rw [← List.flatten_cons, hzero] at heq
      exact hanchors heq
    · exact h.attempts attempt hsuffix hne

theorem HaltsAt.later {first : Segment} {rest : Segments} {s s' s'' : Cursor} {piece : Piece}
    {pieces : Pieces} {groups : List Pieces} {segment : Segment}
    (h : HaltsAt rest s' s'' pieces groups segment) (hfirst : first.Finds s.rest piece)
    (hadvances : s.AdvancesBy [piece] s') :
    HaltsAt (first :: rest) s s'' (piece :: pieces) groups segment := by
  have hrest := hadvances.rest_eq
  have hposition := hadvances.position
  refine ⟨?_, ?_, ?_, ?_, h.attempts⟩
  · rw [hrest] at hfirst ⊢
    exact .later hfirst h.reaches
  · rw [h.position, hposition, hrest, Pieces.text, Pieces.text, List.append_nil, List.length_append]
    omega
  · rw [hrest]
    exact h.rest.trans (List.suffix_append _ _)
  · rw [h.anchors, hadvances.anchors_eq, List.cons_append, Pieces.anchors]
    omega

end Segments

theorem Cursor.rest_eq_drop {text : Text} {s : Cursor} (hsuffix : s.rest <:+ text)
    (hposition : s.position + s.rest.length = text.length) : s.rest = text.drop s.position := by
  obtain ⟨front, rfl⟩ := hsuffix
  rw [List.length_append] at hposition
  rw [List.drop_left' (by omega)]

namespace Segment.Misfits

variable {segment : Segment} {offset : Nat} {t : Text} {m : Mismatch}

end Segment.Misfits

namespace Pattern

end Pattern

end DsnBinding
