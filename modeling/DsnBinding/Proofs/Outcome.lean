/-!
What is known of the steps of a computation once its outcome is known, and what comes first in a list.
-/
namespace DsnBinding

variable {ε ε' α β : Type}

theorem map_eq_ok {f : α → β} {x : Except ε α} {b : β} :
    x.map f = .ok b ↔ ∃ a, x = .ok a ∧ f a = b := by
  cases x with
  | error e => simp [Except.map]
  | ok a => simp [Except.map]

theorem map_eq_error {f : α → β} {x : Except ε α} {e : ε} :
    x.map f = .error e ↔ x = .error e := by
  cases x with
  | error e => simp [Except.map]
  | ok a => simp [Except.map]

theorem mapError_eq_ok {f : ε → ε'} {x : Except ε α} {a : α} :
    x.mapError f = .ok a ↔ x = .ok a := by
  cases x with
  | error e =>
    constructor
    · intro h
      cases h
    · intro h
      cases h
  | ok b =>
    constructor
    · intro h
      exact congrArg Except.ok (Except.ok.inj h)
    · intro h
      exact congrArg Except.ok (Except.ok.inj h)

/-- What does not hold of a whole list fails for a first member. -/
theorem exists_first_not {p : α → Prop} {l : List α} (h : ¬ ∀ a ∈ l, p a) :
    ∃ before a behind, l = before ++ a :: behind ∧ (∀ b ∈ before, p b) ∧ ¬ p a := by
  induction l with
  | nil => exact absurd nofun h
  | cons a rest ih =>
    by_cases ha : p a
    · obtain ⟨before, b, behind, rfl, hbefore, hb⟩ :=
        ih fun hrest => h (List.forall_mem_cons.2 ⟨ha, hrest⟩)
      exact ⟨a :: before, b, behind, rfl, List.forall_mem_cons.2 ⟨ha, hbefore⟩, hb⟩
    · exact ⟨[], a, rest, rfl, nofun, ha⟩

/-- The first member of a list that has a fault, and the fault. -/
def FirstFault (P : α → ε → Prop) (l : List α) (e : ε) : Prop :=
  ∃ before a behind, l = before ++ a :: behind ∧ (∀ b ∈ before, ∀ e', ¬ P b e') ∧ P a e

section FirstFault

variable {P : α → ε → Prop} {a : α} {l l' : List α} {e : ε}

/-- A list without a first fault has no fault. -/
theorem forall_not_iff : (∀ a ∈ l, ∀ e, ¬ P a e) ↔ ∀ e, ¬ FirstFault P l e := by
  constructor
  · rintro h e ⟨before, a, behind, rfl, -, ha⟩
    exact h a (List.mem_append_right before List.mem_cons_self) e ha
  · intro h
    refine Classical.byContradiction fun hnot => ?_
    obtain ⟨before, a, behind, rfl, hbefore, ha⟩ := exists_first_not hnot
    obtain ⟨e, he⟩ := Classical.not_forall_not.1 ha
    exact h e ⟨before, a, behind, rfl, hbefore, he⟩

theorem not_firstFault_nil : ¬ FirstFault P [] e := by
  rintro ⟨before, a, behind, heq, -⟩
  exact List.append_ne_nil_of_right_ne_nil before (List.cons_ne_nil a behind) heq.symm

theorem firstFault_cons :
    FirstFault P (a :: l) e ↔ P a e ∨ (∀ e', ¬ P a e') ∧ FirstFault P l e := by
  constructor
  · rintro ⟨before, b, behind, heq, hbefore, hb⟩
    cases before with
    | nil =>
      obtain ⟨rfl, -⟩ := List.cons.inj heq
      exact Or.inl hb
    | cons _ before =>
      obtain ⟨rfl, rfl⟩ := List.cons.inj heq
      obtain ⟨ha, hbefore⟩ := List.forall_mem_cons.1 hbefore
      exact Or.inr ⟨ha, before, b, behind, rfl, hbefore, hb⟩
  · rintro (ha | ⟨ha, before, b, behind, rfl, hbefore, hb⟩)
    · exact ⟨[], a, l, rfl, nofun, ha⟩
    · exact ⟨a :: before, b, behind, rfl, List.forall_mem_cons.2 ⟨ha, hbefore⟩, hb⟩

theorem firstFault_append :
    FirstFault P (l ++ l') e ↔
      FirstFault P l e ∨ (∀ a ∈ l, ∀ e', ¬ P a e') ∧ FirstFault P l' e := by
  induction l with
  | nil => simp [not_firstFault_nil]
  | cons a rest ih =>
    rw [List.cons_append, firstFault_cons, firstFault_cons, ih, List.forall_mem_cons]
    simp only [and_or_left, or_assoc, and_assoc]

end FirstFault

end DsnBinding
