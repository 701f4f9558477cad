import DsnBinding.Segment

/-!
What a sequence of segments is made of: its leaves, which are its segments other than groups at any
depth, the texts that it spells out, and the contents of its groups. What holds of sequences is
mostly proved by an induction that reaches into the groups.
-/
namespace DsnBinding

mutual

/-- The segments other than groups, at any depth. -/
def Segment.leaves : Segment → Segments
  | .group inner => Segments.leaves inner
  | .literal text => [.literal text]
  | .capture name stops offset => [.capture name stops offset]
  | .choice options => [.choice options]
  | .bare => [.bare]

def Segments.leaves : Segments → Segments
  | [] => []
  | segment :: rest => segment.leaves ++ Segments.leaves rest

end

mutual

/-- The literals and the options of a segment, at any depth. -/
def Segment.spelled : Segment → List Text
  | .literal text => [text]
  | .choice options => options
  | .group inner => Segments.spelled inner
  | .capture .. | .bare => []

def Segments.spelled : Segments → List Text
  | [] => []
  | segment :: rest => segment.spelled ++ Segments.spelled rest

end

mutual

/-- The contents of the groups of a segment, at any depth. -/
def Segment.groups : Segment → List Segments
  | .group inner => inner :: Segments.groups inner
  | .literal _ | .capture .. | .choice _ | .bare => []

def Segments.groups : Segments → List Segments
  | [] => []
  | segment :: rest => segment.groups ++ Segments.groups rest

end

/-- No choice of the sequence, at any depth, is without options. -/
def Segments.HasOptions (segments : Segments) : Prop :=
  ∀ options, Segment.choice options ∈ Segments.leaves segments → options ≠ []

def Segments.IsChoiceless (segments : Segments) : Prop :=
  ∀ options, Segment.choice options ∉ leaves segments

/-- Induction over sequences that reaches into the groups. -/
@[elab_as_elim]
theorem Segments.nestedInduction {motive : Segments → Prop} (nil : motive [])
    (cons : ∀ segment rest, (∀ inner, segment = .group inner → motive inner) → motive rest →
      motive (segment :: rest)) : (segments : Segments) → motive segments
  | [] => nil
  | .group inner :: rest =>
    cons (.group inner) rest
      (fun _ h => Segment.group.inj h ▸ Segments.nestedInduction nil cons inner)
      (Segments.nestedInduction nil cons rest)
  | .literal text :: rest =>
    cons (.literal text) rest (fun _ h => nomatch h) (Segments.nestedInduction nil cons rest)
  | .capture name stops offset :: rest =>
    cons (.capture name stops offset) rest (fun _ h => nomatch h)
      (Segments.nestedInduction nil cons rest)
  | .choice options :: rest =>
    cons (.choice options) rest (fun _ h => nomatch h) (Segments.nestedInduction nil cons rest)
  | .bare :: rest => cons .bare rest (fun _ h => nomatch h) (Segments.nestedInduction nil cons rest)

namespace Segments

theorem leaves_append (s t : Segments) : leaves (s ++ t) = leaves s ++ leaves t := by
  induction s with
  | nil => rfl
  | cons segment s ih => simp [leaves, ih]

theorem mem_spelled {segments : Segments} {text : Text} :
    text ∈ spelled segments ↔ Segment.literal text ∈ leaves segments ∨
      ∃ options, Segment.choice options ∈ leaves segments ∧ text ∈ options := by
  induction segments using nestedInduction with
  | nil => simp [spelled, leaves]
  | cons segment rest hinner ih =>
    have hfirst : text ∈ segment.spelled ↔ Segment.literal text ∈ segment.leaves ∨
        ∃ options, Segment.choice options ∈ segment.leaves ∧ text ∈ options := by
      cases segment with
      | group inner => exact hinner inner rfl
      | literal _ | capture _ _ _ | choice _ | bare => simp [Segment.spelled, Segment.leaves]
    simp only [spelled, leaves, List.mem_append, hfirst, ih]
    constructor
    · intro hor
      rcases hor with (h | ⟨options, h, hmem⟩) | (h | ⟨options, h, hmem⟩)
      · exact Or.inl (Or.inl h)
      · exact Or.inr ⟨options, Or.inl h, hmem⟩
      · exact Or.inl (Or.inr h)
      · exact Or.inr ⟨options, Or.inr h, hmem⟩
    · intro hor
      rcases hor with (h | h) | ⟨options, h | h, hmem⟩
      · exact Or.inl (Or.inl h)
      · exact Or.inr (Or.inl h)
      · exact Or.inl (Or.inr ⟨options, h, hmem⟩)
      · exact Or.inr (Or.inr ⟨options, h, hmem⟩)

theorem names_of_mem_groups {segments inner : Segments} {name : Text} (h : inner ∈ groups segments)
    (hname : name ∈ names inner) : name ∈ names segments := by
  induction segments using nestedInduction with
  | nil => cases h
  | cons segment rest hinner ih =>
    rcases List.mem_append.1 h with h | h
    · apply List.mem_append_left _
      cases segment with
      | group contents =>
        rcases List.mem_cons.1 h with rfl | h
        · exact hname
        · exact hinner contents rfl h
      | literal _ | capture _ _ _ | choice _ | bare => cases h
    · exact List.mem_append_right _ (ih h)

theorem hasOptions_cons {segment : Segment} {rest : Segments} :
    HasOptions (segment :: rest) ↔ HasOptions [segment] ∧ HasOptions rest := by
  simp only [HasOptions, leaves, List.append_nil, List.mem_append]
  constructor
  · intro h
    exact ⟨fun options hmem => h options (Or.inl hmem), fun options hmem => h options (Or.inr hmem)⟩
  · intro hboth options hor
    obtain ⟨hsegment, hrest⟩ := hboth
    rcases hor with hmem | hmem
    · exact hsegment options hmem
    · exact hrest options hmem

theorem hasOptions_group {inner : Segments} : HasOptions [.group inner] ↔ HasOptions inner := by
  simp [HasOptions, leaves, Segment.leaves]

theorem hasOptions_choice {options : List Text} : HasOptions [.choice options] ↔ options ≠ [] := by
  simp [HasOptions, leaves, Segment.leaves]

theorem isChoiceless_cons {segment : Segment} {rest : Segments} :
    IsChoiceless (segment :: rest) ↔ IsChoiceless [segment] ∧ IsChoiceless rest := by
  simp only [IsChoiceless, leaves, List.append_nil, List.mem_append, not_or, forall_and]

theorem isChoiceless_group {inner : Segments} :
    IsChoiceless [.group inner] ↔ IsChoiceless inner := by
  simp [IsChoiceless, leaves, Segment.leaves]

theorem not_isChoiceless_choice (options : List Text) : ¬ IsChoiceless [.choice options] := by
  intro h
  exact h options (by simp [leaves, Segment.leaves])

end Segments

end DsnBinding
