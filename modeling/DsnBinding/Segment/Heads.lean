import DsnBinding.Segment

/-!
What can come first in a sequence of segments. Heads of consecutive sequences combine: the second
sequence contributes exactly if the first can be empty, so the heads of a sequence are assembled
from the heads of its segments.
-/
namespace DsnBinding

structure Heads where
  literals : List Text
  capture : Bool
  empty : Bool
  deriving Repr, DecidableEq, Inhabited

namespace Heads

/-- The heads of the empty sequence, and of the end of a template. -/
def nothing : Heads := ⟨[], false, true⟩

/-- The heads of a sequence followed by another. -/
def followedBy (h next : Heads) : Heads :=
  if h.empty then ⟨h.literals ++ next.literals, h.capture || next.capture, next.empty⟩ else h

@[simp]
theorem nothing_followedBy (h : Heads) : nothing.followedBy h = h := by
  simp [followedBy, nothing]

@[simp]
theorem followedBy_nothing (h : Heads) : h.followedBy nothing = h := by
  obtain ⟨literals, capture, empty⟩ := h
  cases empty <;> simp [followedBy, nothing]

theorem followedBy_assoc (h k l : Heads) :
    (h.followedBy k).followedBy l = h.followedBy (k.followedBy l) := by
  obtain ⟨literals, capture, empty⟩ := h
  obtain ⟨literals', capture', empty'⟩ := k
  cases empty <;> cases empty' <;> simp [followedBy, Bool.or_assoc]

end Heads

mutual

def Segment.heads : Segment → Heads
  | .literal text => ⟨[text], false, false⟩
  | .capture .. => ⟨[], true, false⟩
  | .choice options => ⟨options.filter (!·.isEmpty), false, options.any (·.isEmpty)⟩
  | .group inner => { Segments.heads inner with empty := true }
  | .bare => Heads.nothing

def Segments.heads : Segments → Heads
  | [] => Heads.nothing
  | segment :: rest => segment.heads.followedBy (Segments.heads rest)

end

theorem Segments.heads_append (s t : Segments) :
    Segments.heads (s ++ t) = (Segments.heads s).followedBy (Segments.heads t) := by
  induction s with
  | nil => simp [Segments.heads]
  | cons segment s ih => simp [Segments.heads, ih, Heads.followedBy_assoc]

end DsnBinding
