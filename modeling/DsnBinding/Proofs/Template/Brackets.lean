import DsnBinding.Proofs.Template.Item
import Mathlib.Data.List.Infix

/-!
The brackets of a template. What items are written as is balanced: every bracket that it opens is
closed, and it closes no other. So the bracket that closes a group is the only one with a balanced
text between the two, and a pair of brackets with a balanced text between them lies within the
contents of a group, or behind them, or it is the group.
-/
namespace DsnBinding.Template

def bracketed (t : Text) : Text := '[' :: t ++ [']']

/-- As many brackets are closed as are opened, and never one that was not opened before. -/
structure IsBalanced (t : Text) : Prop where
  count : t.count '[' = t.count ']'
  count_le : ∀ u, u <+: t → u.count ']' ≤ u.count '['

instance (t : Text) : Decidable (IsBalanced t) :=
  decidable_of_iff (t.count '[' = t.count ']' ∧ ∀ u ∈ t.inits, u.count ']' ≤ u.count '[')
    ⟨fun h => ⟨h.1, fun u hu => h.2 u ((List.mem_inits u t).2 hu)⟩,
      fun h => ⟨h.count, fun u hu => h.count_le u ((List.mem_inits u t).1 hu)⟩⟩

namespace IsBalanced

variable {t u x a b : Text}

theorem of_not_mem (hopening : '[' ∉ t) (hclosing : ']' ∉ t) : IsBalanced t := by
  refine ⟨by rw [List.count_eq_zero.2 hopening, List.count_eq_zero.2 hclosing], ?_⟩
  intro u hu
  rw [List.count_eq_zero.2 fun hmem => hclosing (hu.subset hmem)]
  exact Nat.zero_le _

theorem append (ht : IsBalanced t) (hu : IsBalanced u) : IsBalanced (t ++ u) := by
  refine ⟨by rw [List.count_append, List.count_append, ht.count, hu.count], ?_⟩
  rintro v ⟨rest, hrest⟩
  rcases List.append_eq_append_iff.1 hrest with ⟨w, rfl, -⟩ | ⟨w, rfl, hw⟩
  · exact ht.count_le v (List.prefix_append v w)
  · have hcount := ht.count
    have hle := hu.count_le w ⟨rest, hw.symm⟩
    simp only [List.count_append]
    omega

theorem bracketed (h : IsBalanced t) : IsBalanced (bracketed t) := by
  refine ⟨by simp [Template.bracketed, h.count], ?_⟩
  rintro u ⟨rest, htext⟩
  cases u with
  | nil => exact Nat.le_refl _
  | cons c u =>
    obtain ⟨rfl, hrest⟩ : c = '[' ∧ u ++ rest = t ++ [']'] := by
      simpa [Template.bracketed] using htext
    have hle : u.count ']' ≤ u.count '[' + 1 := by
      rcases List.append_eq_append_iff.1 hrest with ⟨w, rfl, -⟩ | ⟨w, rfl, hw⟩
      · exact Nat.le_succ_of_le (h.count_le u (List.prefix_append u w))
      · have hcount := h.count
        have hlast : w.count ']' ≤ 1 := by
          have htotal := congrArg (List.count ']') hw
          rw [List.count_append, List.count_singleton_self] at htotal
          omega
        simp only [List.count_append]
        omega
    simpa using hle

/-- What stands before a closing bracket of a balanced text has opened it. -/
theorem count_lt (h : IsBalanced (t ++ ']' :: u)) : t.count ']' < t.count '[' := by
  have hle := h.count_le (t ++ [']']) ⟨u, by simp⟩
  have hclosing : (t ++ [']']).count ']' = t.count ']' + 1 := by simp
  have hopening : (t ++ [']']).count '[' = t.count '[' := by simp
  omega

/-- Behind an opening bracket, the one that closes it is the only one with a balanced text before
it. -/
theorem eq_of_append (ht : IsBalanced t) (hx : IsBalanced x) (h : t ++ ']' :: u = x ++ ']' :: b) :
    t = x ∧ u = b := by
  have htcount := ht.count
  have hxcount := hx.count
  rcases Text.append_eq_append_cons h with ⟨w, rfl, hw⟩ | ⟨w, rfl, -⟩
  · cases w with
    | nil => exact ⟨(List.append_nil t).symm, (List.cons.inj hw).2⟩
    | cons c w =>
      obtain ⟨rfl, -⟩ := List.cons.inj hw
      have hlt := hx.count_lt
      omega
  · have hlt := ht.count_lt
    omega

/-- A balanced text between brackets lies within a balanced text before a closing bracket, or behind
that bracket. -/
theorem within_or_behind (ht : IsBalanced t) (hx : IsBalanced x)
    (h : t ++ ']' :: u = a ++ '[' :: (x ++ ']' :: b)) :
    (∃ c, t = a ++ '[' :: (x ++ ']' :: c) ∧ b = c ++ ']' :: u) ∨
      ∃ c, a = t ++ ']' :: c ∧ u = c ++ '[' :: (x ++ ']' :: b) := by
  rcases Text.append_eq_append_cons h with ⟨w, rfl, hw⟩ | ⟨w, rfl, hw⟩
  · cases w with
    | nil => exact absurd (List.cons.inj hw).1 (by decide)
    | cons c w =>
      obtain ⟨rfl, rfl⟩ := List.cons.inj hw
      exact Or.inr ⟨w, rfl, rfl⟩
  · -- Before the bracket of `x` and in it no fewer are opened than closed, so another closes `t`.
    have hle := ht.count_le a (List.prefix_append a _)
    have htcount : a.count '[' + (w.count '[' + 1) = a.count ']' + w.count ']' := by
      simpa using ht.count
    have hxcount := hx.count
    rcases Text.append_eq_append_cons hw with ⟨v, rfl, hv⟩ | ⟨v, rfl, -⟩
    · cases v with
      | nil =>
        rw [List.append_nil] at htcount
        omega
      | cons c v =>
        obtain ⟨rfl, rfl⟩ := List.cons.inj hv
        exact Or.inl ⟨v, rfl, rfl⟩
    · have hlt := hx.count_lt
      omega

end IsBalanced

section Items

variable {c : Char}

theorem not_mem_plain {d : Char} (hd : isPlain d = true) (hc : isSpecial c = true) : c ∉ [d] := by
  intro hmem
  rw [List.mem_singleton.1 hmem, isSpecial_of_isPlain hd] at hc
  cases hc

theorem not_mem_capture {name : Text} (hname : isIdentifier name = true) (hc : isSpecial c = true)
    (hne : c ≠ '$') : c ∉ '$' :: name := by
  have hspecial : ∀ d ∈ name, isSpecial d = false := fun d hd =>
    isSpecial_of_isPlain (isPlain_of_isNameChar (isNameChar_of_isIdentifier hname d hd))
  exact List.not_mem_cons_of_ne_of_not_mem hne (not_mem_of_isSpecial hc hspecial)

theorem not_mem_choice {body : Text} (hbody : ∀ d ∈ body, isSpecial d = false)
    (hc : isSpecial c = true) (hopen : c ≠ '(') (hclose : c ≠ ')') :
    c ∉ '(' :: body ++ [')'] := by
  simpa [hopen, hclose] using not_mem_of_isSpecial hc hbody

end Items

theorem Item.Spells.isBalanced {items : List Item} {t : Text} (h : Spells items t) :
    IsBalanced t := by
  induction h with
  | nil => exact .of_not_mem List.not_mem_nil List.not_mem_nil
  | plain hc _ ih =>
    exact IsBalanced.append (.of_not_mem (not_mem_plain hc rfl) (not_mem_plain hc rfl)) ih
  | capture hname _ _ ih =>
    refine IsBalanced.append (.of_not_mem ?_ ?_) ih
    · exact not_mem_capture hname rfl (by decide)
    · exact not_mem_capture hname rfl (by decide)
  | choice _ hbody _ ih =>
    refine IsBalanced.append (.of_not_mem ?_ ?_) ih
    · exact not_mem_choice hbody rfl (by decide) (by decide)
    · exact not_mem_choice hbody rfl (by decide) (by decide)
  | @group inner items u t _ _ _ ihinner ih =>
    have hsplit : '[' :: u ++ ']' :: t = bracketed u ++ t := by simp [bracketed]
    exact hsplit ▸ ihinner.bracketed.append ih

end DsnBinding.Template
