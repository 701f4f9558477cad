import DsnBinding.Field.Numeral
import DsnBinding.Query
import DsnBinding.Text.Quoted

/-!
The values that attributes of a record hold, and how they are written. A text is displayed as it
is; inside a map, and wherever a message shows a value, texts are quoted. A value that is or holds a
number with too many digits cannot be written.
-/
namespace DsnBinding

inductive Value where
  | null
  | bool (b : Bool)
  | int (i : Int)
  | text (t : Text)
  | map (entries : List (Text × Value))
  deriving Inhabited

mutual

def Value.same : Value → Value → Bool
  | .null, .null => true
  | .bool b, .bool b' => b == b'
  | .int i, .int i' => i == i'
  | .text t, .text t' => t == t'
  | .map entries, .map entries' => Value.sameEntries entries entries'
  | _, _ => false

def Value.sameEntries : List (Text × Value) → List (Text × Value) → Bool
  | [], [] => true
  | (k, v) :: rest, (k', v') :: rest' => k == k' && v.same v' && Value.sameEntries rest rest'
  | _, _ => false

end

mutual

theorem Value.same_iff_eq : (a b : Value) → (a.same b = true ↔ a = b)
  | .map entries, b => by
    cases b <;> simp [Value.same, Value.sameEntries_iff_eq entries]
  | .null, b | .bool _, b | .int _, b | .text _, b => by
    cases b <;> simp [Value.same]

theorem Value.sameEntries_iff_eq : (a b : List (Text × Value)) →
    (Value.sameEntries a b = true ↔ a = b)
  | [], b => by cases b <;> simp [Value.sameEntries]
  | (k, v) :: rest, b => by
    rcases b with _ | ⟨⟨k', v'⟩, rest'⟩ <;>
      simp [Value.sameEntries, Value.same_iff_eq v, Value.sameEntries_iff_eq rest]

end

instance : DecidableEq Value := fun a b => decidable_of_iff _ (Value.same_iff_eq a b)

namespace Value

/-- The map of the parameters of a query. -/
def ofQuery (query : Query) : Value := .map (query.entries.map fun (k, v) => (k, .text v))

/-- Null, false, zero and everything empty count as no. -/
def isTruthy : Value → Bool
  | null => false
  | bool b => b
  | int i => i != 0
  | text t => !t.isEmpty
  | map entries => !entries.isEmpty

def typeName : Value → Text
  | null => "NoneType".toList
  | bool _ => "bool".toList
  | int _ => "int".toList
  | text _ => "str".toList
  | map _ => "dict".toList

def decimal : Int → Text
  | .ofNat n => Nat.toDigits 10 n
  | .negSucc n => '-' :: Nat.toDigits 10 (n + 1)

mutual

def shown : Value → Text
  | null => "None".toList
  | bool true => "True".toList
  | bool false => "False".toList
  | int i => decimal i
  | text t => Text.quotedText t
  | map entries => '\x7b' :: Text.joined [',', ' '] (shownEntries entries) ++ ['\x7d']

def shownEntries : List (Text × Value) → List Text
  | [] => []
  | (k, v) :: rest => (Text.quotedText k ++ ':' :: ' ' :: v.shown) :: shownEntries rest

end

mutual

/-- Whether a number in the value has too many digits to be written. -/
def isTooLong : Value → Bool
  | int i => Numeral.digitLimit < (Nat.toDigits 10 i.natAbs).length
  | map entries => areTooLong entries
  | null | bool _ | text _ => false

def areTooLong : List (Text × Value) → Bool
  | [] => false
  | (_, v) :: rest => v.isTooLong || areTooLong rest

end

def display : Value → Text
  | text t => t
  | v => v.shown

end Value

end DsnBinding
