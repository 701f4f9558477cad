import DsnBinding.Text.Quoted

/-!
What can be wrong with a template, and how it is reported. A fault is a complaint at an offset; the
fragment of the template that it shows is determined by the two.
-/
namespace DsnBinding.Template

inductive Complaint where
  | missingName
  | unclosedChoice
  | specialInChoice (c : Char)
  | emptyChoice
  | emptyGroup
  | unexpected (c : Char)
  /-- A query separator anywhere but at the end of the template. -/
  | misplacedQuery
  | unclosedGroup
  /-- A capture that another capture can follow directly. -/
  | adjacentCaptures (name : Text)
  deriving Repr, DecidableEq, Inhabited

structure Fault where
  offset : Nat
  complaint : Complaint
  deriving Repr, DecidableEq, Inhabited

namespace Complaint

def code : Complaint → String
  | missingName => "invalid_variable"
  | unclosedChoice | unclosedGroup => "unterminated_group"
  | specialInChoice _ | emptyChoice => "invalid_alternation"
  | emptyGroup => "empty_group"
  | unexpected _ | misplacedQuery => "unexpected_char"
  | adjacentCaptures _ => "adjacent_variables"

def summary : Complaint → String
  | missingName => "Expected an identifier after the variable marker"
  | unclosedChoice => "Unterminated alternation"
  | specialInChoice c => "Alternations can only hold literal options, got " ++ Text.quoted [c]
  | emptyChoice => "Empty alternation"
  | emptyGroup => "Empty optional group"
  | unexpected c => "Unexpected " ++ Text.quoted [c]
  | misplacedQuery => "The query separator can only end the template"
  | unclosedGroup => "Unterminated optional group"
  | adjacentCaptures name =>
    "Variable $" ++ String.ofList name ++ " is followed by another variable without a delimiter"

end Complaint

structure Error where
  template : Text
  fault : Fault
  deriving Repr, DecidableEq, Inhabited

namespace Error

def offset (e : Error) : Nat := e.fault.offset

def code (e : Error) : String := e.fault.complaint.code

/-- The offending fragment: a character, a pair of brackets, a name, the marker with the character
behind it, or everything from an opening that is never closed. -/
def value (e : Error) : Text :=
  match e.fault.complaint with
  | .missingName => (e.template.drop e.offset).take 2
  | .unclosedChoice | .unclosedGroup => e.template.drop e.offset
  | .specialInChoice c | .unexpected c => [c]
  | .emptyChoice => ['(', ')']
  | .emptyGroup => ['[', ']']
  | .misplacedQuery => ['?']
  | .adjacentCaptures name => name

def message (e : Error) : String :=
  e.fault.complaint.summary ++ " at offset " ++ toString e.offset ++ " in template " ++
    Text.quoted e.template

end Error

end DsnBinding.Template
