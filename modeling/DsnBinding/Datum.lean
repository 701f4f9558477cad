import DsnBinding.Text

/-!
Unchecked data, as it is found in the metadata of a field or in place of a template. A number is a
mantissa divided by a power of ten.
-/
namespace DsnBinding

inductive Datum where
  | null
  | bool (b : Bool)
  | number (mantissa : Int) (decimals : Nat)
  | text (t : Text)
  | list (items : List Datum)
  | object (members : List (Text × Datum))
  deriving Inhabited

namespace Datum

def isNull : Datum → Bool
  | null => true
  | bool _ | number .. | text _ | list _ | object _ => false

/-- Null, false, zero and everything empty count as no. -/
def isTruthy : Datum → Bool
  | null => false
  | bool b => b
  | number mantissa _ => mantissa != 0
  | text t => !t.isEmpty
  | list items => !items.isEmpty
  | object members => !members.isEmpty

def withoutNulls : Datum → Datum
  | object members => object (members.filter (!·.2.isNull))
  | d => d

end Datum

end DsnBinding
