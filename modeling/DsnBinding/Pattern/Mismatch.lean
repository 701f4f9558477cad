import DsnBinding.Text.Quoted

/-!
Why a text does not match a pattern. A group that was entered and then left unfinished reports the
mismatch inside it as its cause, so a mismatch is a chain that ends in the segment that failed.
-/
namespace DsnBinding

inductive Mismatch where
  | literal (offset : Nat) (expected : Text)
  | choice (offset : Nat) (options : List Text)
  | partialGroup (offset : Nat) (cause : Mismatch)
  | trailing (offset : Nat)
  deriving Repr, DecidableEq, Inhabited

namespace Mismatch

def offset : Mismatch → Nat
  | literal offset _ | choice offset _ | partialGroup offset _ | trailing offset => offset

def code : Mismatch → String
  | literal .. => "literal_mismatch"
  | choice .. => "no_alternative"
  | partialGroup .. => "partial_group"
  | trailing _ => "trailing_input"

def cause? : Mismatch → Option Mismatch
  | partialGroup _ cause => some cause
  | literal .. | choice .. | trailing _ => none

def reason : Mismatch → String
  | literal _ expected => "literal mismatch, expected " ++ Text.quoted expected
  | choice _ options =>
    "none of the alternatives " ++ ", ".intercalate (options.map Text.quoted) ++ " matched"
  | partialGroup _ cause => "partial optional group (" ++ cause.reason ++ ")"
  | trailing _ => "unexpected trailing input"

end Mismatch

/-- A mismatch together with the template and the text that do not fit. -/
structure NoMatch where
  template : Text
  text : Text
  mismatch : Mismatch
  deriving Repr, DecidableEq, Inhabited

namespace NoMatch

def code (e : NoMatch) : String := e.mismatch.code

def offset (e : NoMatch) : Nat := e.mismatch.offset

def reason (e : NoMatch) : String := e.mismatch.reason

def message (e : NoMatch) : String :=
  e.reason ++ " at position " ++ toString e.offset ++ " of " ++ Text.quoted e.text ++
    " (template " ++ Text.quoted e.template ++ ")"

end NoMatch

end DsnBinding
