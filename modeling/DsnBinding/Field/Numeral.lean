import DsnBinding.Text

/-!
Decimal integers in text: an optional sign and at least one ASCII digit, nothing else. Leading zeros
are allowed and count as digits.
-/
namespace DsnBinding

structure Numeral where
  negative : Bool
  digits : Text
  deriving Repr, DecidableEq, Inhabited

namespace Numeral

def ofDigits? (negative : Bool) (digits : Text) : Option Numeral :=
  if !digits.isEmpty && digits.all Char.isDigit then some ⟨negative, digits⟩ else none

def read? : Text → Option Numeral
  | '-' :: digits => ofDigits? true digits
  | '+' :: digits => ofDigits? false digits
  | digits => ofDigits? false digits

/-- The number that the digits denote in base ten, with its sign. -/
def value (n : Numeral) : Int :=
  let magnitude : Int := Nat.ofDigitChars 10 n.digits 0
  if n.negative then -magnitude else magnitude

/-- A numeral with more digits than this has no value, and a number with more digits no numeral. -/
def digitLimit : Nat := 4300

def limitMessage (about : String) : String :=
  "Exceeds the limit (" ++ toString digitLimit ++ " digits) for integer string conversion" ++ about ++
    "; use sys.set_int_max_str_digits() to increase the limit"

end Numeral

end DsnBinding
