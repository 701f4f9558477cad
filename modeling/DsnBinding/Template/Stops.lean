import DsnBinding.Segment.Heads
import DsnBinding.Template.Fault

/-!
The stops of a capture are the literals that can follow it. What can follow a segment are the heads
of its later siblings and, if those can all be absent, whatever can follow the whole sequence. A
capture that another capture can follow has no delimiter and is refused.
-/
namespace DsnBinding

mutual

/-- Fill in the stops of a segment, given what can follow it. -/
def Segment.withStops (next : Heads) : Segment → Except Template.Fault Segment
  | .capture name _ offset =>
    if next.capture then .error ⟨offset, .adjacentCaptures name⟩
    else .ok (.capture name next.literals.eraseDups offset)
  | .group inner => (Segments.withStops next inner).map .group
  | .literal text => .ok (.literal text)
  | .choice options => .ok (.choice options)
  | .bare => .ok .bare

def Segments.withStops (next : Heads) : Segments → Except Template.Fault Segments
  | [] => .ok []
  | segment :: rest =>
    match segment.withStops ((Segments.heads rest).followedBy next) with
    | .error fault => .error fault
    | .ok segment' => (Segments.withStops next rest).map (segment' :: ·)

end

end DsnBinding
