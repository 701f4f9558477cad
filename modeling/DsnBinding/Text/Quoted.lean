import DsnBinding.Text
import DsnBinding.Text.Printable

/-!
The quoted form in which messages show a text: quotation marks around it, a backslash before what
would end it, short escapes for the common control characters, and the code point in lower-case
hexadecimal for every other character that is not printable.
-/
namespace DsnBinding.Text

def apostrophe : Char := '\x27'

def doubleQuote : Char := '\x22'

def backslash : Char := '\x5c'

/-- Apostrophes surround the text unless it holds some and no double quote. -/
def quotationMark (t : Text) : Char :=
  if t.contains apostrophe && !t.contains doubleQuote then doubleQuote else apostrophe

/-- Lower-case hexadecimal digits, padded with zeros to the width. -/
def hexadecimal (width n : Nat) : Text :=
  let digits := Nat.toDigits 16 n
  List.replicate (width - digits.length) '0' ++ digits

/-- The shortest of the three numeric escapes that can hold the code point. -/
def numericEscape (c : Char) : Text :=
  if c.toNat ≤ 0xff then backslash :: 'x' :: hexadecimal 2 c.toNat
  else if c.toNat ≤ 0xffff then backslash :: 'u' :: hexadecimal 4 c.toNat
  else backslash :: 'U' :: hexadecimal 8 c.toNat

def escaped (mark c : Char) : Text :=
  if c = mark ∨ c = backslash then [backslash, c]
  else if c = '\n' then [backslash, 'n']
  else if c = '\r' then [backslash, 'r']
  else if c = '\t' then [backslash, 't']
  else if printable c then [c]
  else numericEscape c

def quotedText (t : Text) : Text :=
  let mark := quotationMark t
  mark :: t.flatMap (escaped mark) ++ [mark]

def quoted (t : Text) : String := String.ofList (quotedText t)

/-- Texts between quotation marks in parentheses; behind a single one there is a comma. -/
def quotedTuple : List Text → Text
  | [t] => '(' :: quotedText t ++ [',', ')']
  | texts => '(' :: joined [',', ' '] (texts.map quotedText) ++ [')']

end DsnBinding.Text
