import DsnBinding.Template.Nesting
import DsnBinding.Template.Stops

/-!
A pattern is a template together with its segments. Compiling reads the template and then works out
where each capture ends; a template that cannot be read is refused before its captures are looked
at.
-/
namespace DsnBinding

structure Pattern where
  template : Text
  segments : Segments
  deriving DecidableEq, Inhabited

namespace Pattern

/-- The segments of a template, with the stops of their captures. -/
def segmentsOf (template : Text) : Except Template.Fault Segments :=
  match Template.outline template with
  | .error fault => .error fault
  | .ok segments => Segments.withStops Heads.nothing segments

def compile (template : Text) : Except Template.Error Pattern :=
  match segmentsOf template with
  | .error fault => .error ⟨template, fault⟩
  | .ok segments => .ok ⟨template, segments⟩

def names (pattern : Pattern) : List Text := Segments.names pattern.segments

end Pattern

end DsnBinding
