import DsnBinding.Template.Fault

/-!
The tokens of a template, from left to right. A run of plain characters, a captured variable and a
whole choice are one token each; what cannot be read becomes a token that carries its fault, so
that the first thing wrong with a template is also the first faulty token. The scanner recurses on
the template itself and counts down the characters that the current token has already taken.
-/
namespace DsnBinding.Template

def isSpecial (c : Char) : Bool := c ∈ ['$', '(', ')', '[', ']']

/-- Plain characters stand for themselves. -/
def isPlain (c : Char) : Bool := !isSpecial c && c != '?'

def isNameStart (c : Char) : Bool := c.isAlpha || c == '_'

def isNameChar (c : Char) : Bool := isNameStart c || c.isDigit

def isIdentifier : Text → Bool
  | [] => false
  | c :: t => isNameStart c && t.all isNameChar

/-- The longest identifier at the beginning of a text; empty if there is none. -/
def leadingName : Text → Text
  | [] => []
  | c :: t => if isNameStart c then c :: t.takeWhile isNameChar else []

inductive Token where
  | literal (text : Text)
  | capture (name : Text) (offset : Nat)
  | choice (options : List Text)
  | opening (offset : Nat)
  | closing (offset : Nat)
  /-- The query separator, and whether the template ends behind it. -/
  | query (offset : Nat) (last : Bool)
  | faulty (fault : Fault)
  deriving Repr, DecidableEq, Inhabited

/-- A body without a bar is the text that may be left out. -/
def optionsOf (body : Text) : List Text :=
  if '|' ∈ body then (body.splitOn '|').eraseDups else [body, []]

/-- The token of a choice whose parenthesis stands at the offset, before the given text. -/
def choiceToken (offset : Nat) (t : Text) : Token :=
  let body := t.before ')'
  if ')' ∉ t then .faulty ⟨offset, .unclosedChoice⟩
  else
    match body.find? isSpecial with
    | some c => .faulty ⟨offset + 1 + (body.takeWhile (!isSpecial ·)).length, .specialInChoice c⟩
    | none => if body.isEmpty then .faulty ⟨offset, .emptyChoice⟩ else .choice (optionsOf body)

/-- The tokens of a text at an offset, once the characters to skip are passed. -/
def scanFrom (offset : Nat) : Nat → Text → List Token
  | _, [] => []
  | skip + 1, _ :: t => scanFrom (offset + 1) skip t
  | 0, c :: t =>
    if c = '$' then
      let name := leadingName t
      let token := if name.isEmpty then .faulty ⟨offset, .missingName⟩ else .capture name offset
      token :: scanFrom (offset + 1) name.length t
    else if c = '(' then
      choiceToken offset t :: scanFrom (offset + 1) ((Text.before ')' t).length + 1) t
    else if c = '[' then .opening offset :: scanFrom (offset + 1) 0 t
    else if c = ']' then .closing offset :: scanFrom (offset + 1) 0 t
    else if c = ')' then .faulty ⟨offset, .unexpected c⟩ :: scanFrom (offset + 1) 0 t
    else if c = '?' then .query offset t.isEmpty :: scanFrom (offset + 1) 0 t
    else
      let run := t.takeWhile isPlain
      .literal (c :: run) :: scanFrom (offset + 1) run.length t

def scan (template : Text) : List Token := scanFrom 0 0 template

end DsnBinding.Template
