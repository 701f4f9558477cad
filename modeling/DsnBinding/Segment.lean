import DsnBinding.Text

/-!
The elements of a pattern. A literal stands for itself, a capture names the text between its
neighbours, a choice stands for one of its options, and a group is a sequence that may be absent as
a whole. The same tree serves before and after the stops of its captures are known; before, they
are empty.
-/
namespace DsnBinding

inductive Segment where
  | literal (text : Text)
  /-- The stops are the literals that end the capture; without any it extends to the end of the
  text. The offset is where the capture stands in its template. -/
  | capture (name : Text) (stops : List Text) (offset : Nat)
  /-- The empty text is an option of a choice that may be left out. -/
  | choice (options : List Text)
  | group (segments : List Segment)
  /-- A segment without content, which no matcher knows how to meet. -/
  | bare
  deriving Inhabited

abbrev Segments := List Segment

mutual

def Segment.same : Segment → Segment → Bool
  | .literal t, .literal u => t == u
  | .capture name stops offset, .capture name' stops' offset' =>
    name == name' && stops == stops' && offset == offset'
  | .choice options, .choice options' => options == options'
  | .group inner, .group inner' => Segments.same inner inner'
  | .bare, .bare => true
  | _, _ => false

def Segments.same : Segments → Segments → Bool
  | [], [] => true
  | segment :: rest, segment' :: rest' => segment.same segment' && Segments.same rest rest'
  | _, _ => false

end

mutual

theorem Segment.same_iff_eq : (a b : Segment) → (a.same b = true ↔ a = b)
  | .group inner, b => by
    cases b <;> simp [Segment.same, Segments.same_iff_eq inner]
  | .literal _, b | .capture .., b | .choice _, b | .bare, b => by
    cases b <;> simp [Segment.same, and_assoc]

theorem Segments.same_iff_eq : (a b : Segments) → (Segments.same a b = true ↔ a = b)
  | [], b => by cases b <;> simp [Segments.same]
  | segment :: rest, b => by
    cases b <;> simp [Segments.same, Segment.same_iff_eq segment, Segments.same_iff_eq rest]

end

instance : DecidableEq Segment := fun a b => decidable_of_iff _ (Segment.same_iff_eq a b)

mutual

/-- The names of the captures, in the order of the template; a repeated name is repeated. -/
def Segment.names : Segment → List Text
  | .capture name _ _ => [name]
  | .group inner => Segments.names inner
  | .literal _ | .choice _ | .bare => []

def Segments.names : Segments → List Text
  | [] => []
  | segment :: rest => segment.names ++ Segments.names rest

end

theorem Segments.names_append (s t : Segments) :
    Segments.names (s ++ t) = Segments.names s ++ Segments.names t := by
  induction s with
  | nil => rfl
  | cons segment s ih => simp [Segments.names, ih]

def Segment.isFixed : Segment → Bool
  | .literal _ | .choice _ => true
  | .capture .. | .group _ | .bare => false

def insertByLength (option : Text) : List Text → List Text
  | [] => [option]
  | other :: rest =>
    if other.length ≤ option.length then option :: other :: rest
    else other :: insertByLength option rest

/-- The longest option first; options of equal length keep the order of their declaration. -/
def longestFirst (options : List Text) : List Text := options.foldr insertByLength []

theorem insertByLength_perm (option : Text) (options : List Text) :
    (insertByLength option options).Perm (option :: options) := by
  induction options with
  | nil => exact List.Perm.refl _
  | cons other rest ih =>
    unfold insertByLength
    split
    · exact List.Perm.refl _
    · exact (ih.cons other).trans (List.Perm.swap option other rest)

theorem longestFirst_perm (options : List Text) : (longestFirst options).Perm options := by
  induction options with
  | nil => exact List.Perm.refl _
  | cons option rest ih => exact (insertByLength_perm option _).trans (ih.cons option)

theorem insertByLength_pairwise (option : Text) {options : List Text}
    (h : options.Pairwise fun a b => b.length ≤ a.length) :
    (insertByLength option options).Pairwise fun a b => b.length ≤ a.length := by
  induction options with
  | nil => exact List.pairwise_singleton _ option
  | cons other rest ih =>
    obtain ⟨hother, hrest⟩ := List.pairwise_cons.1 h
    unfold insertByLength
    split
    · rename_i hle
      refine List.pairwise_cons.2 ⟨?_, h⟩
      intro a ha
      rcases List.mem_cons.1 ha with rfl | ha
      · exact hle
      · exact Nat.le_trans (hother a ha) hle
    · rename_i hlt
      refine List.pairwise_cons.2 ⟨?_, ih hrest⟩
      intro a ha
      rcases List.mem_cons.1 ((insertByLength_perm option rest).mem_iff.1 ha) with rfl | ha
      · omega
      · exact hother a ha

theorem longestFirst_pairwise (options : List Text) :
    (longestFirst options).Pairwise fun a b => b.length ≤ a.length := by
  induction options with
  | nil => exact List.Pairwise.nil
  | cons option rest ih => exact insertByLength_pairwise option ih

end DsnBinding
