import DsnBinding.Segment
import DsnBinding.Template.Token

/-!
From tokens to segments. Brackets nest, so the groups that are still open form a stack; each holds
where it began and what stood before it in its own sequence. The first fault in template order is
the one reported, and at the end of the template it is the innermost open group.
-/
namespace DsnBinding.Template

structure OpenGroup where
  offset : Nat
  preceding : Segments
  deriving Inhabited

/-- Read tokens behind the given segments, inside the given open groups. -/
def nest : List OpenGroup → Segments → List Token → Except Fault Segments
  | [], segments, [] => .ok segments
  | innermost :: _, _, [] => .error ⟨innermost.offset, .unclosedGroup⟩
  | stack, segments, .literal text :: rest => nest stack (segments ++ [.literal text]) rest
  | stack, segments, .capture name offset :: rest =>
    nest stack (segments ++ [.capture name [] offset]) rest
  | stack, segments, .choice options :: rest => nest stack (segments ++ [.choice options]) rest
  | stack, segments, .opening offset :: rest => nest (⟨offset, segments⟩ :: stack) [] rest
  | [], _, .closing offset :: _ => .error ⟨offset, .unexpected ']'⟩
  | innermost :: stack, segments, .closing _ :: rest =>
    if segments.isEmpty then .error ⟨innermost.offset, .emptyGroup⟩
    else nest stack (innermost.preceding ++ [.group segments]) rest
  | stack, segments, .query offset last :: rest =>
    if stack.isEmpty && last then nest stack segments rest
    else .error ⟨offset, .misplacedQuery⟩
  | _, _, .faulty fault :: _ => .error fault

/-- The segments that a template spells, with no stops yet. -/
def outline (template : Text) : Except Fault Segments := nest [] [] (scan template)

end DsnBinding.Template
