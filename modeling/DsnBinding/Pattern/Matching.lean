import DsnBinding.OrderedMap
import DsnBinding.Pattern
import DsnBinding.Pattern.Mismatch

/-!
Matching a text against a pattern, in one pass from left to right. A capture ends where the first of
its stops begins; a choice takes its longest option that fits. A group is entered if its contents
can begin with some text here. If it then fails before any text of its own was found, it was never
there and everything it did is undone; if it fails later, the text is refused.
-/
namespace DsnBinding

abbrev Captures := OrderedMap Text Text

structure Cursor where
  position : Nat
  /-- The text that is not consumed yet. -/
  rest : Text
  captures : Captures
  /-- How many literals and non-empty options were found so far. -/
  anchors : Nat
  deriving Repr, DecidableEq, Inhabited

namespace Cursor

def start (text : Text) : Cursor := ⟨0, text, .empty, 0⟩

def consume (s : Cursor) (length : Nat) : Cursor :=
  { s with position := s.position + length, rest := s.rest.drop length }

def anchor (s : Cursor) : Cursor := { s with anchors := s.anchors + 1 }

/-- Capture the text up to the first stop, or all that is left. -/
def capture (s : Cursor) (name : Text) (stops : List Text) : Cursor :=
  let text := s.rest.upTo stops
  { s.consume text.length with captures := s.captures.insert name text }

/-- Give the names that were not captured yet an empty text. -/
def leaveOut (s : Cursor) (names : List Text) : Cursor :=
  { s with captures := names.foldl (·.insertIfNew · []) s.captures }

end Cursor

mutual

/-- Whether a segment consumes a non-empty text here; undecided for one that may stay empty. -/
def Segment.starts? (text : Text) : Segment → Option Bool
  | .literal expected => some (expected.isPrefixOf text)
  | .capture _ stops _ => some (!(text.upTo stops).isEmpty)
  | .choice options =>
    if options.any fun option => !option.isEmpty && option.isPrefixOf text then some true
    else if options.any (·.isEmpty) then none
    else some false
  | .group inner => if Segments.start text inner then some true else none
  | .bare => none

/-- Whether a sequence can begin with a non-empty text here. -/
def Segments.start (text : Text) : Segments → Bool
  | [] => false
  | segment :: rest => (segment.starts? text).getD (Segments.start text rest)

end

/-- What brings matching to a halt: the text does not fit, or a segment cannot be matched at all. -/
inductive Obstacle where
  | mismatch (mismatch : Mismatch)
  | bareSegment
  deriving Repr, DecidableEq, Inhabited

/-- An obstacle, and the cursor as it was left there. -/
structure Halt where
  cursor : Cursor
  obstacle : Obstacle
  deriving Repr, DecidableEq, Inhabited

/-- What becomes of a group entered at a cursor when its contents come to a halt. -/
def Halt.leaveGroup (halt : Halt) (entry : Cursor) (names : List Text) : Except Halt Cursor :=
  match halt.obstacle with
  | .bareSegment => .error halt
  | .mismatch cause =>
    if halt.cursor.anchors = entry.anchors then .ok (entry.leaveOut names)
    else .error ⟨halt.cursor, .mismatch (.partialGroup halt.cursor.position cause)⟩

mutual

def Segment.consume : Segment → Cursor → Except Halt Cursor
  | .literal text, s =>
    if text.isPrefixOf s.rest then .ok (s.consume text.length).anchor
    else .error ⟨s, .mismatch (.literal s.position text)⟩
  | .capture name stops _, s => .ok (s.capture name stops)
  | .choice options, s =>
    match (longestFirst options).find? (·.isPrefixOf s.rest) with
    | some [] => .ok s
    | some option => .ok (s.consume option.length).anchor
    | none => .error ⟨s, .mismatch (.choice s.position options)⟩
  | .group inner, s =>
    if Segments.start s.rest inner then
      match Segments.consume inner s with
      | .ok s' => .ok s'
      | .error halt => halt.leaveGroup s (Segments.names inner)
    else .ok (s.leaveOut (Segments.names inner))
  | .bare, s => .error ⟨s, .bareSegment⟩

def Segments.consume : Segments → Cursor → Except Halt Cursor
  | [], s => .ok s
  | segment :: rest, s =>
    match segment.consume s with
    | .ok s' => Segments.consume rest s'
    | .error halt => .error halt

end

theorem Segments.consume_append (a b : Segments) (s : Cursor) :
    Segments.consume (a ++ b) s =
      match Segments.consume a s with
      | .ok s' => Segments.consume b s'
      | .error halt => .error halt := by
  induction a generalizing s with
  | nil => rfl
  | cons segment a ih =>
    simp only [List.cons_append, Segments.consume]
    cases segment.consume s with
    | ok s' => exact ih s'
    | error halt => rfl

/-- What separates the scheme from the rest. -/
def schemeMark : Text := [':', '/', '/']

/-- The scheme at the beginning of a text, empty if no mark follows it. -/
def schemeOf (text : Text) : Text :=
  if text.includes schemeMark then text.upTo [schemeMark] else []

structure Outcome where
  captures : Captures
  /-- What the leading literals and choices consumed before the mark. -/
  scheme : Text
  length : Nat
  anchors : Nat
  deriving Repr, DecidableEq, Inhabited

namespace Pattern

/-- The literals and choices before the first other segment. -/
def lead (pattern : Pattern) : Segments := pattern.segments.takeWhile Segment.isFixed

def body (pattern : Pattern) : Segments := pattern.segments.dropWhile Segment.isFixed

/-- Match a whole text; the scheme is read from what the lead of the pattern consumed. -/
def run (pattern : Pattern) (text : Text) : Except Halt Outcome :=
  match Segments.consume pattern.lead (Cursor.start text) with
  | .error halt => .error halt
  | .ok lead =>
    match Segments.consume pattern.body lead with
    | .error halt => .error halt
    | .ok s =>
      if s.rest.isEmpty then
        .ok ⟨s.captures, schemeOf (text.take lead.position), s.position, s.anchors⟩
      else .error ⟨s, .mismatch (.trailing s.position)⟩

end Pattern

end DsnBinding
