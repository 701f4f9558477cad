import DsnBinding.Proofs.Pattern.Finding

/-!
How a sequence begins at a place of a text. Matching can begin with some text exactly if a head
begins there or a capture that can come first has some text there. If no capture can come first,
looking at the heads is enough: where none begins, all that is found is empty.
-/
namespace DsnBinding

namespace Heads

/-- One of the heads begins the text. -/
def Opens (h : Heads) (t : Text) : Prop := ∃ text ∈ h.literals, text <+: t

variable {h next : Heads} {t : Text}

theorem opens_followedBy :
    (h.followedBy next).Opens t ↔ h.Opens t ∨ h.empty = true ∧ next.Opens t := by
  obtain ⟨literals, capture, empty⟩ := h
  cases empty <;> simp [Opens, followedBy, or_and_right, exists_or]

theorem capture_followedBy :
    (h.followedBy next).capture = false ↔
      h.capture = false ∧ (h.empty = true → next.capture = false) := by
  obtain ⟨literals, capture, empty⟩ := h
  cases empty <;> simp [followedBy]

theorem empty_followedBy :
    (h.followedBy next).empty = true ↔ h.empty = true ∧ next.empty = true := by
  obtain ⟨literals, capture, empty⟩ := h
  cases empty <;> simp [followedBy]

end Heads

theorem Segment.opens_choice {options : List Text} {t : Text} :
    (Segment.choice options).heads.Opens t ↔ ∃ option ∈ options, option ≠ [] ∧ option <+: t := by
  simp [Segment.heads, Heads.Opens, and_assoc]

namespace Segments

/-- A capture with the given name and stops can come first in a sequence: only groups, choices that
may be left out and segments without content stand before it. -/
inductive CanBegin (name : Text) (stops : List Text) : Segments → Prop
  | capture (offset : Nat) (rest : Segments) :
      CanBegin name stops (.capture name stops offset :: rest)
  | inside {inner : Segments} (rest : Segments) (h : CanBegin name stops inner) :
      CanBegin name stops (.group inner :: rest)
  | behindGroup (inner : Segments) {rest : Segments} (h : CanBegin name stops rest) :
      CanBegin name stops (.group inner :: rest)
  | behindChoice {options : List Text} {rest : Segments} (hempty : [] ∈ options)
      (h : CanBegin name stops rest) : CanBegin name stops (.choice options :: rest)
  | behindBare {rest : Segments} (h : CanBegin name stops rest) :
      CanBegin name stops (.bare :: rest)

/-- A sequence begins at a text: one of its heads does, or a capture that can come first has some
text here. -/
def BeginsAt (segments : Segments) (t : Text) : Prop :=
  (heads segments).Opens t ∨ ∃ name stops, CanBegin name stops segments ∧ Text.upTo stops t ≠ []

theorem CanBegin.capture_heads {name : Text} {stops : List Text} {segments : Segments}
    (h : CanBegin name stops segments) : (heads segments).capture = true := by
  induction h with
  | capture offset rest => simp [heads, Segment.heads, Heads.followedBy]
  | inside rest _ ih => simp [heads, Segment.heads, Heads.followedBy, ih]
  | behindGroup inner _ ih => simp [heads, Segment.heads, Heads.followedBy, ih]
  | @behindChoice options rest hempty _ ih =>
    have hany : options.any (·.isEmpty) = true := List.any_eq_true.2 ⟨[], hempty, rfl⟩
    simp [heads, Segment.heads, Heads.followedBy, hany, ih]
  | behindBare _ ih => simp [heads, Segment.heads, ih]

variable {name t : Text} {stops : List Text} {inner rest : Segments}

theorem not_canBegin_literal {text : Text} : ¬ CanBegin name stops (.literal text :: rest) :=
  fun h => nomatch h

theorem canBegin_choice {options : List Text} :
    CanBegin name stops (.choice options :: rest) ↔ [] ∈ options ∧ CanBegin name stops rest := by
  refine ⟨?_, fun hboth => .behindChoice hboth.1 hboth.2⟩
  intro h
  cases h with
  | behindChoice hempty h => exact ⟨hempty, h⟩

theorem canBegin_group :
    CanBegin name stops (.group inner :: rest) ↔
      CanBegin name stops inner ∨ CanBegin name stops rest := by
  refine ⟨?_, fun hor => hor.elim (.inside rest) (.behindGroup inner)⟩
  intro h
  cases h with
  | inside _ h => exact Or.inl h
  | behindGroup _ h => exact Or.inr h

theorem canBegin_bare : CanBegin name stops (.bare :: rest) ↔ CanBegin name stops rest := by
  refine ⟨?_, .behindBare⟩
  intro h
  cases h with
  | behindBare h => exact h

theorem not_beginsAt_nil : ¬ BeginsAt [] t := by
  intro hor
  rcases hor with ⟨_, hmem, -⟩ | ⟨_, _, h, -⟩
  · cases hmem
  · cases h

theorem beginsAt_literal {text : Text} : BeginsAt (.literal text :: rest) t ↔ text <+: t := by
  simp [BeginsAt, not_canBegin_literal, heads, Segment.heads, Heads.followedBy, Heads.Opens]

theorem beginsAt_capture {offset : Nat} :
    BeginsAt (.capture name stops offset :: rest) t ↔ Text.upTo stops t ≠ [] := by
  constructor
  · intro hor
    rcases hor with ⟨_, hmem, -⟩ | ⟨_, _, h, hne⟩
    · cases hmem
    · cases h
      exact hne
  · exact fun hne => Or.inr ⟨name, stops, .capture offset rest, hne⟩

theorem beginsAt_choice {options : List Text} :
    BeginsAt (.choice options :: rest) t ↔
      (∃ option ∈ options, option ≠ [] ∧ option <+: t) ∨ [] ∈ options ∧ BeginsAt rest t := by
  have hempty : (Segment.choice options).heads.empty = true ↔ [] ∈ options := by
    simp [Segment.heads]
  simp only [BeginsAt, heads, Heads.opens_followedBy, Segment.opens_choice, hempty,
    canBegin_choice, and_assoc, exists_and_left, or_assoc, ← and_or_left]

theorem beginsAt_group :
    BeginsAt (.group inner :: rest) t ↔ BeginsAt inner t ∨ BeginsAt rest t := by
  have hopens : (Segment.group inner).heads.Opens t ↔ (heads inner).Opens t := Iff.rfl
  have hempty : (Segment.group inner).heads.empty = true := rfl
  simp only [BeginsAt, heads, Heads.opens_followedBy, hopens, hempty, true_and, canBegin_group,
    or_and_right, exists_or]
  exact or_or_or_comm

theorem beginsAt_bare : BeginsAt (.bare :: rest) t ↔ BeginsAt rest t := by
  simp only [BeginsAt, heads, Segment.heads, Heads.nothing_followedBy, canBegin_bare]

/-- The look-ahead of matching, which stops at the first segment that decides, agrees with the heads
and the captures that can come first, which are collected from the whole sequence. -/
theorem start_iff_beginsAt {segments : Segments} {t : Text} :
    start t segments = true ↔ BeginsAt segments t := by
  induction segments using nestedInduction with
  | nil => simp [start, not_beginsAt_nil]
  | cons segment rest hinner ih =>
    rw [start]
    cases segment with
    | literal text => simp [Segment.starts?, beginsAt_literal]
    | capture name stops offset => simp [Segment.starts?, beginsAt_capture]
    | choice options =>
      rw [beginsAt_choice, ← ih, Segment.starts?]
      simp only [List.any_eq_true, Bool.and_eq_true, Bool.not_eq_true', List.isEmpty_eq_false_iff,
        List.isPrefixOf_iff_prefix, List.isEmpty_iff, exists_eq_right]
      split
      · rename_i hoption
        simp [hoption]
      · rename_i hoption
        split
        · rename_i hempty
          simp [hoption, hempty]
        · rename_i hempty
          simp [hoption, hempty]
    | group inner =>
      rw [beginsAt_group, ← hinner inner rfl, ← ih, Segment.starts?]
      split
      · rename_i hstart
        simp [hstart]
      · rename_i hstart
        simp [hstart]
    | bare => simp [Segment.starts?, beginsAt_bare, ih]

/-- Unless a capture can come first, a sequence can begin with some text exactly where a head
begins. -/
theorem start_iff_opens {segments : Segments} {t : Text} (h : (heads segments).capture = false) :
    start t segments = true ↔ (heads segments).Opens t := by
  rw [start_iff_beginsAt, BeginsAt, or_iff_left_iff_imp]
  intro hsome
  obtain ⟨_, _, hcanBegin, -⟩ := hsome
  rw [hcanBegin.capture_heads] at h
  cases h

end Segments

/-- Where its head does not begin, a segment can only be found empty. -/
theorem Segment.Finds.eq_nil_of_not_opens {segment : Segment} {t : Text} {piece : Piece}
    (h : segment.Finds t piece) (hcapture : segment.heads.capture = false)
    (hopens : ¬ segment.heads.Opens t) : segment.heads.empty = true ∧ piece.text = [] := by
  cases h with
  | leaf hleaf hderives =>
    cases hderives with
    | literal hfits => exact absurd ⟨_, List.mem_singleton.2 rfl, hfits⟩ hopens
    | capture _ => cases hcapture
    | @choice options option _ hmem hfits _ =>
      by_cases hne : option = []
      · subst hne
        exact ⟨List.any_eq_true.2 ⟨[], hmem, rfl⟩, rfl⟩
      · exact absurd (opens_choice.2 ⟨option, hmem, hne, hfits⟩) hopens
    | @present inner | absent inner => exact absurd rfl (hleaf inner)
  | present hstart _ => exact absurd ((Segments.start_iff_opens hcapture).1 hstart) hopens
  | absent _ | undone _ => exact ⟨rfl, rfl⟩

namespace Segments

theorem Finds.eq_nil_of_not_opens {segments : Segments} {t : Text} {pieces : Pieces}
    (h : Finds segments t pieces) (hcapture : (heads segments).capture = false)
    (hopens : ¬ (heads segments).Opens t) : Pieces.text pieces = [] := by
  induction segments generalizing t pieces with
  | nil =>
    cases h
    rfl
  | cons segment rest ih =>
    cases h with | @cons _ _ u piece pieces first others =>
    rw [heads] at hcapture hopens
    obtain ⟨hsegment, hrest⟩ := Heads.capture_followedBy.1 hcapture
    rw [Heads.opens_followedBy, not_or] at hopens
    obtain ⟨hempty, hnil⟩ := first.eq_nil_of_not_opens hsegment hopens.1
    rw [hnil, List.nil_append] at hopens
    rw [Pieces.text, hnil, ih others (hrest hempty) fun hu => hopens.2 ⟨hempty, hu⟩]
    rfl

/-- A sequence is met at a text: it does not miss, and what is found of it holds a literal or an
option that is not empty. -/
structure IsMet (segments : Segments) (t : Text) : Prop where
  not_misses : ¬ Misses segments t
  finds : ∀ pieces, Finds segments t pieces → Pieces.anchors pieces ≠ 0 ∧ Pieces.text pieces ≠ []

end Segments

/-- Where its head begins, a segment is found with some text. -/
theorem Segment.Finds.ne_nil_of_opens {segment : Segment} {t : Text} {piece : Piece}
    (hinner : ∀ inner, segment = .group inner → (Segments.heads inner).Opens t →
      Segments.IsMet inner t)
    (hliteral : ∀ text, segment = .literal text → text ≠ [])
    (h : segment.Finds t piece) (hopens : segment.heads.Opens t) :
    piece.anchors ≠ 0 ∧ piece.text ≠ [] := by
  cases h with
  | leaf hleaf hderives =>
    cases hderives with
    | literal _ => exact ⟨Nat.one_ne_zero, hliteral _ rfl⟩
    | capture _ =>
      obtain ⟨_, hmem, -⟩ := hopens
      cases hmem
    | @choice options option _ hmem hfits longest =>
      obtain ⟨other, hother, hne, hbegins⟩ := opens_choice.1 hopens
      have hoption : option ≠ [] := by
        rintro rfl
        exact hne (List.length_eq_zero_iff.1 (Nat.le_zero.1 (longest other hother hbegins)))
      simp [Piece.anchors, Piece.text, hoption]
    | @present inner | absent inner => exact absurd rfl (hleaf inner)
  | @present inner _ pieces _ hfinds => exact (hinner inner rfl hopens).finds pieces hfinds
  | absent hstart =>
    rw [Segments.start_iff_beginsAt.2 (Or.inl hopens)] at hstart
    cases hstart
  | @undone inner _ hmisses => exact absurd hmisses (hinner inner rfl hopens).not_misses

namespace Segments

theorem IsMet.of_first {segment : Segment} {rest : Segments} {t : Text}
    (hopens : segment.heads.Opens t)
    (hfirst : ∀ piece, segment.Finds t piece → piece.anchors ≠ 0 ∧ piece.text ≠ []) :
    IsMet (segment :: rest) t := by
  refine ⟨?_, ?_⟩
  · intro hmisses
    cases hmisses with
    | literal _ hfits =>
      obtain ⟨text, hmem, hbegins⟩ := hopens
      exact hfits (List.mem_singleton.1 hmem ▸ hbegins)
    | choice _ hfits =>
      obtain ⟨option, hmem, -, hbegins⟩ := Segment.opens_choice.1 hopens
      exact hfits option hmem hbegins
    | later first hanchors _ => exact (hfirst _ first).1 hanchors
  · intro pieces hfinds
    cases hfinds with | @cons _ _ u piece pieces first _ =>
    obtain ⟨hanchors, hne⟩ := hfirst piece first
    rw [Pieces.anchors, Pieces.text]
    exact ⟨by omega, fun hnil => hne (List.append_eq_nil_iff.1 hnil).1⟩

theorem IsMet.of_rest {segment : Segment} {rest : Segments} {t : Text} (h : IsMet rest t)
    (hempty : segment.heads.empty = true)
    (hfirst : ∀ piece, segment.Finds t piece → piece.anchors = 0 → piece.text = []) :
    IsMet (segment :: rest) t := by
  refine ⟨?_, ?_⟩
  · intro hmisses
    cases hmisses with
    | literal _ _ => cases hempty
    | choice _ hfits =>
      obtain ⟨option, hmem, hoption⟩ := List.any_eq_true.1 hempty
      obtain rfl := List.isEmpty_iff.1 hoption
      exact hfits [] hmem List.nil_prefix
    | @later _ _ u piece first hanchors others =>
      rw [hfirst piece first hanchors, List.nil_append] at h
      exact h.not_misses others
  · intro pieces hfinds
    cases hfinds with | @cons _ _ u piece pieces first others =>
    rw [Pieces.anchors, Pieces.text]
    by_cases hnil : piece.text = []
    · rw [hnil, List.nil_append] at h
      obtain ⟨hanchors, hne⟩ := h.finds pieces others
      exact ⟨by omega, fun hall => hne (List.append_eq_nil_iff.1 hall).2⟩
    · have hanchors : piece.anchors ≠ 0 := fun hzero => hnil (hfirst piece first hzero)
      exact ⟨by omega, fun hall => hnil (List.append_eq_nil_iff.1 hall).1⟩

end Segments

end DsnBinding
