import DsnBinding.Field.Numeral
import DsnBinding.Value
import Mathlib.Data.Nat.Digits.Defs

/-!
Numerals and the integers that they denote. A text is read as a numeral exactly if it is digits with
or without a sign, and the numeral has the value that its digits have by their places. An integer is
written as a numeral that denotes it, with no more digits than it needs.
-/
namespace DsnBinding.Numeral

/-- At least one ASCII digit, and nothing else. -/
structure IsDigits (digits : Text) : Prop where
  ne_nil : digits ≠ []
  ascii : ∀ c ∈ digits, '0' ≤ c ∧ c ≤ '9'

/-- The texts that stand for a numeral. Without a sign it is not negative. -/
inductive Spells : Text → Numeral → Prop
  | unsigned {digits : Text} (h : IsDigits digits) : Spells digits ⟨false, digits⟩
  | plus {digits : Text} (h : IsDigits digits) : Spells ('+' :: digits) ⟨false, digits⟩
  | minus {digits : Text} (h : IsDigits digits) : Spells ('-' :: digits) ⟨true, digits⟩

def digitValue (c : Char) : Nat := c.toNat - '0'.toNat

/-- The integer that the digits denote by their places, the last of which counts ones. -/
def denoted (n : Numeral) : Int :=
  (if n.negative then -1 else 1) * (Nat.ofDigits 10 (n.digits.map digitValue).reverse : Nat)

variable {n : Numeral} {digits raw : Text}

theorem isDigit_iff {c : Char} : c.isDigit = true ↔ '0' ≤ c ∧ c ≤ '9' := by
  simp [Char.isDigit, Char.le_def]

theorem ofDigits?_eq_some_iff {negative : Bool} :
    ofDigits? negative digits = some n ↔ IsDigits digits ∧ n = ⟨negative, digits⟩ := by
  have hdigits : (!digits.isEmpty && digits.all Char.isDigit) = true ↔ IsDigits digits := by
    simp only [Bool.and_eq_true, Bool.not_eq_true', List.isEmpty_eq_false_iff, List.all_eq_true,
      isDigit_iff]
    exact ⟨fun h => ⟨h.1, h.2⟩, fun h => ⟨h.ne_nil, h.ascii⟩⟩
  unfold ofDigits?
  split
  · rename_i h
    simp [hdigits.1 h, eq_comm]
  · rename_i h
    simp [mt hdigits.2 h]

theorem IsDigits.read?_eq (h : IsDigits digits) : read? digits = some ⟨false, digits⟩ := by
  unfold read?
  split
  · exact absurd (h.ascii '-' List.mem_cons_self) (by decide)
  · exact absurd (h.ascii '+' List.mem_cons_self) (by decide)
  · exact ofDigits?_eq_some_iff.2 ⟨h, rfl⟩

theorem read?_eq_some_iff : read? raw = some n ↔ Spells raw n := by
  constructor
  · intro h
    unfold read? at h
    split at h
    all_goals
      obtain ⟨hdigits, rfl⟩ := ofDigits?_eq_some_iff.1 h
    · exact .minus hdigits
    · exact .plus hdigits
    · exact .unsigned hdigits
  · intro h
    cases h with
    | unsigned h => exact h.read?_eq
    | plus h => exact ofDigits?_eq_some_iff.2 ⟨h, rfl⟩
    | minus h => exact ofDigits?_eq_some_iff.2 ⟨h, rfl⟩

theorem Spells.isDigits (h : Spells raw n) : IsDigits n.digits := by
  cases h <;> assumption

/-- Reading digit by digit adds up their places. -/
theorem ofDigitChars_eq_ofDigits (digits : Text) :
    Nat.ofDigitChars 10 digits 0 = Nat.ofDigits 10 (digits.map digitValue).reverse := by
  induction digits with
  | nil => rfl
  | cons c digits ih =>
    rw [Nat.ofDigitChars_cons, Nat.ofDigitChars_eq_ofDigitChars_zero, ih, List.map_cons,
      Nat.ofDigits_reverse_cons, List.length_map, Nat.mul_zero, Nat.zero_add, Nat.add_comm,
      digitValue]

theorem value_eq_denoted (n : Numeral) : n.value = n.denoted := by
  unfold value denoted
  rw [ofDigitChars_eq_ofDigits]
  cases n.negative <;> simp

theorem digitValue_lt {c : Char} (h : c ≤ '9') : digitValue c < 10 := by
  have hc : c.toNat ≤ '9'.toNat := h
  have hnine : '9'.toNat = '0'.toNat + 9 := rfl
  unfold digitValue
  omega

/-- A numeral denotes no integer with more digits than it has itself. -/
theorem natAbs_value_lt (h : IsDigits n.digits) : n.value.natAbs < 10 ^ n.digits.length := by
  have hlt : ∀ d ∈ (n.digits.map digitValue).reverse, d < 10 := by
    intro d hd
    obtain ⟨c, hc, rfl⟩ := List.mem_map.1 (List.mem_reverse.1 hd)
    exact digitValue_lt (h.ascii c hc).2
  have hsum := Nat.ofDigits_lt_base_pow_length (by decide : 1 < 10) hlt
  rw [List.length_reverse, List.length_map] at hsum
  have habs : n.denoted.natAbs = Nat.ofDigits 10 (n.digits.map digitValue).reverse := by
    unfold denoted
    cases n.negative <;> simp
  rwa [value_eq_denoted, habs]

theorem isDigits_toDigits (m : Nat) : IsDigits (Nat.toDigits 10 m) where
  ne_nil := Nat.toDigits_ne_nil
  ascii _ hc := isDigit_iff.1 (Nat.isDigit_of_mem_toDigits (by decide) (by decide) hc)

theorem exists_spells_decimal (i : Int) :
    ∃ n, Spells (Value.decimal i) n ∧ n.value = i ∧ n.digits = Nat.toDigits 10 i.natAbs := by
  cases i with
  | ofNat m =>
    refine ⟨⟨false, Nat.toDigits 10 m⟩, .unsigned (isDigits_toDigits m), ?_, rfl⟩
    simp [value]
  | negSucc m =>
    refine ⟨⟨true, Nat.toDigits 10 (m + 1)⟩, .minus (isDigits_toDigits (m + 1)), ?_, rfl⟩
    simp [value, Int.negSucc_eq]

end DsnBinding.Numeral
