import DsnBinding.Text

/-!
References to variables inside the value of a variable. A dollar sign and a name in braces stand for
the value of the variable; behind a colon and a minus sign the braces can hold the text to use if
there is none. Whatever has not this form is plain text.
-/
namespace DsnBinding

structure VariableReference where
  name : Text
  /-- What the reference stands for if the variable has no value. -/
  fallback : Text
  /-- How many characters the reference takes. -/
  length : Nat
  deriving Repr, DecidableEq, Inhabited

namespace VariableReference

/-- The reference whose name is read, given the text behind the name. -/
def close? (name : Text) : Text → Option VariableReference
  | '\x7d' :: _ => some ⟨name, [], name.length + 3⟩
  | ':' :: '-' :: t =>
    let fallback := Text.before '\x7d' t
    if t.contains '\x7d' then some ⟨name, fallback, name.length + fallback.length + 5⟩ else none
  | _ => none

def read? : Text → Option VariableReference
  | '$' :: '\x7b' :: t =>
    let name := t.takeWhile fun c => c != '\x7d' && c != ':'
    close? name (t.drop name.length)
  | _ => none

end VariableReference

namespace Text

/-- Replace the references in a text of which so many characters are already replaced. -/
def expandedFrom (value : Text → Option Text) : Nat → Text → Text
  | _, [] => []
  | taken + 1, _ :: t => expandedFrom value taken t
  | 0, c :: t =>
    match VariableReference.read? (c :: t) with
    | some r => (value r.name).getD r.fallback ++ expandedFrom value (r.length - 1) t
    | none => c :: expandedFrom value 0 t

def expanded (value : Text → Option Text) (t : Text) : Text := expandedFrom value 0 t

end Text

end DsnBinding
