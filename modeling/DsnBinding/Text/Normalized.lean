import DsnBinding.Text.CombiningClass
import DsnBinding.Text.Decomposition

/-!
Normalized names. Texts that differ only in how a letter is written, with its marks joined or apart,
in full width, as a ligature or in another variant form, are one name. Their common form is found in
three steps: every character is taken apart, the marks behind each letter are put into the order of
their classes, and letters are joined with their marks again. A text in ASCII is in this form already.
-/
namespace DsnBinding.Text

/-- The first code points of the syllables of Hangul and of their leading, middle and final parts;
what counts the final parts is one more than there are, as a syllable may lack one. -/
def firstSyllable : Nat := 0xac00

def firstLead : Nat := 0x1100

def firstVowel : Nat := 0x1161

def beforeFirstTail : Nat := 0x11a7

def leadCount : Nat := 19

def vowelCount : Nat := 21

def tailCount : Nat := 28

def syllableCount : Nat := leadCount * vowelCount * tailCount

def syllableParts (number : Nat) : Text :=
  let lead := Char.ofNat (firstLead + number / (vowelCount * tailCount))
  let vowel := Char.ofNat (firstVowel + number % (vowelCount * tailCount) / tailCount)
  let tail := number % tailCount
  if tail = 0 then [lead, vowel] else [lead, vowel, Char.ofNat (beforeFirstTail + tail)]

/-- A character taken apart as far as possible; itself if it has no parts. -/
def parts (c : Char) : Text :=
  if firstSyllable ≤ c.toNat ∧ c.toNat < firstSyllable + syllableCount then
    syllableParts (c.toNat - firstSyllable)
  else
    match decompositions.find? (·.whole == c) with
    | some decomposition => decomposition.parts
    | none => [c]

/-- The syllable that a leading part and a vowel, or a syllable without a tail and a tail, make. -/
def syllable? (a b : Char) : Option Char :=
  if firstLead ≤ a.toNat ∧ a.toNat < firstLead + leadCount ∧
      firstVowel ≤ b.toNat ∧ b.toNat < firstVowel + vowelCount then
    some (Char.ofNat (firstSyllable +
      ((a.toNat - firstLead) * vowelCount + (b.toNat - firstVowel)) * tailCount))
  else if firstSyllable ≤ a.toNat ∧ a.toNat < firstSyllable + syllableCount ∧
      (a.toNat - firstSyllable) % tailCount = 0 ∧
      beforeFirstTail < b.toNat ∧ b.toNat < beforeFirstTail + tailCount then
    some (Char.ofNat (a.toNat + (b.toNat - beforeFirstTail)))
  else none

def joinedParts (c : Char) : Text :=
  match decompositions.find? fun d => d.joins && d.whole == c with
  | some decomposition => decomposition.parts
  | none => [c]

def joined? (a b : Char) : Option Char :=
  match syllable? a b with
  | some syllable => some syllable
  | none =>
    let sought := joinedParts a ++ [b]
    (decompositions.find? fun d => d.joins && d.parts == sought).map (·.whole)

/-- Put a character in front of a text in order: behind the marks of a lower class if it is a mark
itself. -/
def placed (c : Char) : Text → Text
  | [] => [c]
  | d :: t =>
    if 0 < combiningClass d ∧ combiningClass d < combiningClass c then d :: placed c t
    else c :: d :: t

/-- Put the marks behind each letter into the order of their classes; those of one class stay in the
order they have. -/
def marksInOrder (t : Text) : Text := t.foldr placed []

/-- Join a letter with what follows it. A character can be joined to the letter if every mark
between them, which did not join, has a lower class. -/
def joinMarks (letter : Char) (marks : Text) : Text → Text
  | [] => letter :: marks
  | c :: t =>
    match if marks.all (combiningClass · < combiningClass c) then joined? letter c else none with
    | some whole => joinMarks whole marks t
    | none =>
      if combiningClass c = 0 then letter :: marks ++ joinMarks c [] t
      else joinMarks letter (marks ++ [c]) t

def joinLetters : Text → Text
  | [] => []
  | c :: t => joinMarks c [] t

def normalized (t : Text) : Text :=
  if t.all (·.toNat < 0x80) then t else joinLetters (marksInOrder (t.flatMap parts))

end DsnBinding.Text
