import DsnBinding.Proofs.Segment
import DsnBinding.Template.Nesting

/-!
The leaves of a template. Nesting only groups the segments that the tokens spell, so that the leaves
of an outline, its segments other than groups at any depth, are what the tokens spell in their
order. Hence literals are plain and not empty, choices have options, and captures carry no stops yet
and stand at increasing offsets.
-/
namespace DsnBinding

namespace Template

/-- The segment that a token spells by itself. -/
def Token.segment? : Token → Option Segment
  | .literal text => some (.literal text)
  | .capture name offset => some (.capture name [] offset)
  | .choice options => some (.choice options)
  | .opening _ | .closing _ | .query .. | .faulty _ => none

/-- The leaves in front of the innermost open group. -/
def leavesBefore : List OpenGroup → Segments
  | [] => []
  | g :: stack => leavesBefore stack ++ Segments.leaves g.preceding

theorem leaves_nest {stack : List OpenGroup} {segments result : Segments} {tokens : List Token}
    (h : nest stack segments tokens = .ok result) :
    Segments.leaves result =
      leavesBefore stack ++ Segments.leaves segments ++ tokens.filterMap Token.segment? := by
  fun_induction nest stack segments tokens with
  | case1 segments =>
    obtain rfl := Except.ok.inj h
    simp [leavesBefore]
  | case2 => cases h
  | case3 stack segments text rest ih =>
    rw [ih h]
    simp [Segments.leaves_append, Segments.leaves, Segment.leaves, Token.segment?]
  | case4 stack segments name offset rest ih =>
    rw [ih h]
    simp [Segments.leaves_append, Segments.leaves, Segment.leaves, Token.segment?]
  | case5 stack segments options rest ih =>
    rw [ih h]
    simp [Segments.leaves_append, Segments.leaves, Segment.leaves, Token.segment?]
  | case6 stack segments offset rest ih =>
    rw [ih h]
    simp [leavesBefore, Segments.leaves, List.filterMap_cons, Token.segment?]
  | case7 => cases h
  | case8 => cases h
  | case9 innermost stack segments offset rest _ ih =>
    rw [ih h]
    simp [leavesBefore, Segments.leaves_append, Segments.leaves, Segment.leaves,
      List.filterMap_cons, Token.segment?]
  | case10 stack segments offset last rest _ ih =>
    rw [ih h]
    simp [List.filterMap_cons, Token.segment?]
  | case11 => cases h
  | case12 => cases h

theorem leaves_outline {template : Text} {segments : Segments}
    (h : outline template = .ok segments) :
    Segments.leaves segments = (scan template).filterMap Token.segment? := by
  simpa [leavesBefore, Segments.leaves] using leaves_nest h

/-- Literals are plain and not empty, and choices have options. -/
def Token.IsSound : Token → Prop
  | .literal text => text ≠ [] ∧ ∀ c ∈ text, isPlain c = true
  | .choice options => options ≠ []
  | .capture .. | .opening _ | .closing _ | .query .. | .faulty _ => True

theorem optionsOf_ne_nil (body : Text) : optionsOf body ≠ [] := by
  unfold optionsOf
  split
  · intro h
    obtain ⟨piece, hpiece⟩ := List.exists_mem_of_ne_nil _ (List.splitOn_ne_nil '|' body)
    have hmem : piece ∈ (body.splitOn '|').eraseDups := List.mem_eraseDups.2 hpiece
    simp [h] at hmem
  · simp

theorem choiceToken_isSound (offset : Nat) (t : Text) : (choiceToken offset t).IsSound := by
  unfold choiceToken
  dsimp only
  split
  · trivial
  · split
    · trivial
    · split
      · trivial
      · exact optionsOf_ne_nil _

theorem isSound_of_mem_scanFrom {offset skip : Nat} {t : Text} {token : Token}
    (h : token ∈ scanFrom offset skip t) : token.IsSound := by
  fun_induction scanFrom offset skip t with
  | case1 => cases h
  | case2 offset skip c t ih => exact ih h
  | case3 offset t name token' ih =>
    rcases List.mem_cons.1 h with rfl | h
    · unfold token'
      split <;> trivial
    · exact ih h
  | case4 offset t _ ih =>
    rcases List.mem_cons.1 h with rfl | h
    · exact choiceToken_isSound offset t
    · exact ih h
  | case5 offset t _ _ ih | case6 offset t _ _ _ ih | case7 offset t _ _ _ _ ih
  | case8 offset t _ _ _ _ _ ih =>
    rcases List.mem_cons.1 h with rfl | h
    · trivial
    · exact ih h
  | case9 offset c t hsigil hparen hopen hclose hend hquery run ih =>
    rcases List.mem_cons.1 h with rfl | h
    · have hc : isPlain c = true := by
        simp [isPlain, isSpecial, hsigil, hparen, hopen, hclose, hend, hquery]
      refine ⟨List.cons_ne_nil c run, ?_⟩
      intro d hd
      rcases List.mem_cons.1 hd with rfl | hd
      · exact hc
      · exact List.all_eq_true.1 (List.all_takeWhile ..) d hd
    · exact ih h

/-- Where the captures among the tokens stand. -/
def Token.captureOffset? : Token → Option Nat
  | .capture _ offset => some offset
  | .literal _ | .choice _ | .opening _ | .closing _ | .query .. | .faulty _ => none

/-- Numbers that increase, none of them below the first. -/
def IncreasingFrom (first : Nat) (numbers : List Nat) : Prop :=
  numbers.Pairwise (· < ·) ∧ ∀ n ∈ numbers, first ≤ n

theorem IncreasingFrom.weaken {first : Nat} {numbers : List Nat}
    (h : IncreasingFrom (first + 1) numbers) : IncreasingFrom first numbers :=
  ⟨h.1, fun n hn => Nat.le_of_succ_le (h.2 n hn)⟩

theorem IncreasingFrom.cons {first : Nat} {numbers : List Nat}
    (h : IncreasingFrom (first + 1) numbers) : IncreasingFrom first (first :: numbers) := by
  refine ⟨List.pairwise_cons.2 ⟨h.2, h.1⟩, ?_⟩
  intro n hn
  rcases List.mem_cons.1 hn with rfl | hn
  · exact Nat.le_refl n
  · exact h.weaken.2 n hn

theorem captureOffset?_choiceToken (offset : Nat) (t : Text) :
    (choiceToken offset t).captureOffset? = none := by
  unfold choiceToken
  dsimp only
  split
  · rfl
  · split
    · rfl
    · split <;> rfl

theorem captureOffsets_scanFrom (offset skip : Nat) (t : Text) :
    IncreasingFrom offset ((scanFrom offset skip t).filterMap Token.captureOffset?) := by
  fun_induction scanFrom offset skip t with
  | case1 => exact ⟨List.Pairwise.nil, by simp⟩
  | case2 offset skip c t ih => exact ih.weaken
  | case3 offset t name token ih =>
    unfold token
    split
    · simpa [List.filterMap_cons, Token.captureOffset?] using ih.weaken
    · simpa [List.filterMap_cons, Token.captureOffset?] using ih.cons
  | case4 offset t _ ih =>
    simpa [List.filterMap_cons, captureOffset?_choiceToken] using ih.weaken
  | case5 offset t _ _ ih | case6 offset t _ _ _ ih | case7 offset t _ _ _ _ ih
  | case8 offset t _ _ _ _ _ ih | case9 offset c t _ _ _ _ _ _ run ih =>
    simpa [List.filterMap_cons, Token.captureOffset?] using ih.weaken

end Template

/-- Where a capture stands. -/
def Segment.captureOffset? : Segment → Option Nat
  | .capture _ _ offset => some offset
  | .literal _ | .choice _ | .group _ | .bare => none

namespace Template

theorem captureOffset?_eq_bind (token : Token) :
    token.segment?.bind Segment.captureOffset? = token.captureOffset? := by
  cases token <;> rfl

theorem captureOffsets_outline {template : Text} {segments : Segments}
    (h : outline template = .ok segments) :
    ((Segments.leaves segments).filterMap Segment.captureOffset?).Pairwise (· < ·) := by
  rw [leaves_outline h, List.filterMap_filterMap]
  simp only [captureOffset?_eq_bind]
  exact (captureOffsets_scanFrom 0 0 template).1

/-- A leaf of an outline is a literal that is plain and not empty, a capture without stops, or a
choice that has options. -/
theorem leaf_outline {template : Text} {segments : Segments} {leaf : Segment}
    (h : outline template = .ok segments) (hleaf : leaf ∈ Segments.leaves segments) :
    (∃ text, leaf = .literal text ∧ text ≠ [] ∧ ∀ c ∈ text, isPlain c = true) ∨
      (∃ name offset, leaf = .capture name [] offset) ∨
      ∃ options, leaf = .choice options ∧ options ≠ [] := by
  rw [leaves_outline h] at hleaf
  obtain ⟨token, htoken, hsegment⟩ := List.mem_filterMap.1 hleaf
  have hsound := isSound_of_mem_scanFrom htoken
  cases token with
  | literal text =>
    obtain rfl := Option.some.inj hsegment
    exact Or.inl ⟨text, rfl, hsound⟩
  | capture name offset =>
    obtain rfl := Option.some.inj hsegment
    exact Or.inr (Or.inl ⟨name, offset, rfl⟩)
  | choice options =>
    obtain rfl := Option.some.inj hsegment
    exact Or.inr (Or.inr ⟨options, rfl, hsound⟩)
  | opening _ | closing _ | query _ _ | faulty _ => cases hsegment

end Template

end DsnBinding
