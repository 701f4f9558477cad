import DsnBinding.Proofs.Pattern.Halting

/-!
Segments written in another way. Two ends of matching are alike if matching comes to the same place
with the same captures, and where it halts there, reports the same code and offset. Segments that
match alike can stand for one another at any depth of a pattern: what is around them, a group that
undoes what they did or wraps their mismatch included, cannot tell one from the other.
-/
namespace DsnBinding

/-- Obstacles that are reported with the same code and offset. -/
inductive Obstacle.Alike : Obstacle → Obstacle → Prop
  | mismatch {m m' : Mismatch} (hcode : m'.code = m.code) (hoffset : m'.offset = m.offset) :
      Obstacle.Alike (.mismatch m) (.mismatch m')
  | bareSegment : Obstacle.Alike .bareSegment .bareSegment

/-- The same result, or halts with the same cursor and alike obstacles. -/
inductive Halt.Alike {α : Type} : Except Halt α → Except Halt α → Prop
  | ok (a : α) : Halt.Alike (.ok a) (.ok a)
  | error (s : Cursor) {obstacle obstacle' : Obstacle} (h : obstacle.Alike obstacle') :
      Halt.Alike (.error ⟨s, obstacle⟩) (.error ⟨s, obstacle'⟩)

theorem Obstacle.Alike.refl (obstacle : Obstacle) : obstacle.Alike obstacle := by
  cases obstacle with
  | mismatch m => exact .mismatch rfl rfl
  | bareSegment => exact .bareSegment

theorem Obstacle.Alike.symm {a b : Obstacle} (h : a.Alike b) : b.Alike a := by
  cases h with
  | mismatch hcode hoffset => exact .mismatch hcode.symm hoffset.symm
  | bareSegment => exact .bareSegment

theorem Obstacle.Alike.trans {a b c : Obstacle} (h : a.Alike b) (h' : b.Alike c) : a.Alike c := by
  cases h with
  | mismatch hcode hoffset =>
    cases h' with
    | mismatch hcode' hoffset' => exact .mismatch (hcode'.trans hcode) (hoffset'.trans hoffset)
  | bareSegment => exact h'

namespace Halt.Alike

variable {α : Type} {x y z : Except Halt α}

theorem refl (x : Except Halt α) : Alike x x := by
  cases x with
  | ok a => exact .ok a
  | error halt => exact .error halt.cursor (.refl halt.obstacle)

theorem symm (h : Alike x y) : Alike y x := by
  cases h with
  | ok a => exact .ok a
  | error s h => exact .error s h.symm

theorem trans (h : Alike x y) (h' : Alike y z) : Alike x z := by
  cases h with
  | ok a => exact h'
  | error s h =>
    cases h' with
    | error _ h' => exact .error s (h.trans h')

theorem eq_ok_or_error (h : Alike x y) :
    (∃ a, x = .ok a ∧ y = .ok a) ∨ ∃ s obstacle obstacle', x = .error ⟨s, obstacle⟩ ∧
      y = .error ⟨s, obstacle'⟩ ∧ obstacle.Alike obstacle' := by
  cases h with
  | ok a => exact Or.inl ⟨a, rfl, rfl⟩
  | error s h => exact Or.inr ⟨s, _, _, rfl, rfl, h⟩

/-- A group undoes what both did, or wraps both mismatches alike. -/
theorem leaveGroup {halt halt' : Halt} (h : @Alike Cursor (.error halt) (.error halt'))
    (entry : Cursor) (names : List Text) :
    Alike (halt.leaveGroup entry names) (halt'.leaveGroup entry names) := by
  cases h with
  | error s h =>
    cases h with
    | mismatch hcode hoffset =>
      simp only [Halt.leaveGroup]
      split
      · exact .ok _
      · exact .error s (.mismatch rfl rfl)
    | bareSegment => exact .error s .bareSegment

end Halt.Alike

/-- Segments that begin at the same texts and come to the same end from every cursor. -/
structure Segment.MatchesLike (a b : Segment) : Prop where
  isFixed : a.isFixed = b.isFixed
  names : a.names = b.names
  starts? : ∀ t, a.starts? t = b.starts? t
  consume : ∀ s, Halt.Alike (a.consume s) (b.consume s)

structure Segments.MatchLike (a b : Segments) : Prop where
  names : names a = names b
  start : ∀ t, start t a = start t b
  consume : ∀ s, Halt.Alike (consume a s) (consume b s)

theorem Segment.MatchesLike.refl (segment : Segment) : segment.MatchesLike segment :=
  ⟨rfl, rfl, fun _ => rfl, fun _ => .refl _⟩

theorem Segment.MatchesLike.group {inner inner' : Segments} (h : inner.MatchLike inner') :
    (Segment.group inner).MatchesLike (.group inner') := by
  refine ⟨rfl, h.names, ?_, ?_⟩
  · intro t
    rw [Segment.starts?, Segment.starts?, h.start]
  · intro s
    rw [Segment.consume, Segment.consume, h.start, h.names]
    split
    · rcases (h.consume s).eq_ok_or_error with ⟨s', hx, hy⟩ | ⟨s', _, _, hx, hy, hobstacle⟩
      · rw [hx, hy]
        exact .ok s'
      · rw [hx, hy]
        exact (Halt.Alike.error s' hobstacle).leaveGroup s _
    · exact .ok _

namespace Segments

theorem matchLike_nil : MatchLike [] [] := ⟨rfl, fun _ => rfl, fun s => .ok s⟩

theorem MatchLike.cons {segment segment' : Segment} {rest rest' : Segments}
    (hfirst : segment.MatchesLike segment') (h : MatchLike rest rest') :
    MatchLike (segment :: rest) (segment' :: rest') := by
  refine ⟨?_, ?_, ?_⟩
  · rw [Segments.names, Segments.names, hfirst.names, h.names]
  · intro t
    rw [Segments.start, Segments.start, hfirst.starts?, h.start]
  · intro s
    rw [Segments.consume, Segments.consume]
    rcases (hfirst.consume s).eq_ok_or_error with ⟨s', hx, hy⟩ | ⟨s', _, _, hx, hy, hobstacle⟩
    · rw [hx, hy]
      exact h.consume s'
    · rw [hx, hy]
      exact .error s' hobstacle

/-- Some of the segments, at any depth, are rewritten by a rule. -/
inductive Rewrites (R : Segment → Segment → Prop) : Segments → Segments → Prop
  | nil : Rewrites R [] []
  | keep (segment : Segment) {rest rest' : Segments} (h : Rewrites R rest rest') :
      Rewrites R (segment :: rest) (segment :: rest')
  | step {segment segment' : Segment} {rest rest' : Segments} (hfirst : R segment segment')
      (h : Rewrites R rest rest') : Rewrites R (segment :: rest) (segment' :: rest')
  | inside {inner inner' rest rest' : Segments} (hinner : Rewrites R inner inner')
      (h : Rewrites R rest rest') : Rewrites R (.group inner :: rest) (.group inner' :: rest')

namespace Rewrites

variable {R : Segment → Segment → Prop} {a b : Segments}

theorem refl (segments : Segments) : Rewrites R segments segments := by
  induction segments with
  | nil => exact .nil
  | cons segment rest ih => exact .keep segment ih

/-- A rule that rewrites segments as others that match like them does so with whole sequences. -/
theorem matchLike (hR : ∀ a b, R a b → a.MatchesLike b) (h : Rewrites R a b) : MatchLike a b := by
  induction h with
  | nil => exact matchLike_nil
  | keep segment _ ih => exact .cons (.refl segment) ih
  | step hfirst _ ih => exact .cons (hR _ _ hfirst) ih
  | inside _ _ ihinner ih => exact .cons (.group ihinner) ih

theorem lead_body (hR : ∀ a b, R a b → a.isFixed = b.isFixed) (h : Rewrites R a b) :
    Rewrites R (a.takeWhile Segment.isFixed) (b.takeWhile Segment.isFixed) ∧
      Rewrites R (a.dropWhile Segment.isFixed) (b.dropWhile Segment.isFixed) := by
  induction h with
  | nil => exact ⟨.nil, .nil⟩
  | keep segment h ih =>
    cases hfixed : segment.isFixed with
    | true => simpa [hfixed] using And.imp_left (Rewrites.keep segment) ih
    | false => simpa [hfixed] using And.intro Rewrites.nil (Rewrites.keep segment h)
  | @step segment segment' _ _ hfirst h ih =>
    have hsame := hR _ _ hfirst
    cases hfixed : segment.isFixed with
    | true => simpa [hfixed, ← hsame] using And.imp_left (Rewrites.step hfirst) ih
    | false => simpa [hfixed, ← hsame] using And.intro Rewrites.nil (Rewrites.step hfirst h)
  | inside hinner h _ => simpa [Segment.isFixed] using And.intro Rewrites.nil (.inside hinner h)

end Rewrites

end Segments

namespace Pattern

variable {p p' : Pattern} {text : Text}

/-- A pattern whose segments are rewritten as others that match like them comes to the same end. -/
theorem run_alike {R : Segment → Segment → Prop} (hR : ∀ a b, R a b → a.MatchesLike b)
    (h : Segments.Rewrites R p.segments p'.segments) (text : Text) :
    Halt.Alike (p.run text) (p'.run text) := by
  obtain ⟨hlead, hbody⟩ := h.lead_body fun a b hab => (hR a b hab).isFixed
  have hlead := (hlead.matchLike hR).consume (Cursor.start text)
  have hbody := (hbody.matchLike hR).consume
  rw [run, run, lead, lead, body, body]
  rcases hlead.eq_ok_or_error with ⟨s, hx, hy⟩ | ⟨s, _, _, hx, hy, hobstacle⟩
  · rw [hx, hy]
    dsimp only
    rcases (hbody s).eq_ok_or_error with ⟨s', hx, hy⟩ | ⟨s', _, _, hx, hy, hobstacle⟩
    · rw [hx, hy]
      exact .refl _
    · rw [hx, hy]
      exact .error s' hobstacle
  · rw [hx, hy]
    exact .error s hobstacle

/-- Ends that are alike are the same outcome or two mismatches with the same code and offset, unless
there is a segment without content. -/
theorem outcome_or_mismatch_of_alike (hbare : Segment.bare ∉ Segments.leaves p.segments)
    (h : Halt.Alike (p.run text) (p'.run text)) :
    (∃ o, p.run text = .ok o ∧ p'.run text = .ok o) ∨
      ∃ s m m', p.run text = .error ⟨s, .mismatch m⟩ ∧ p'.run text = .error ⟨s, .mismatch m'⟩ ∧
        m'.code = m.code ∧ m'.offset = m.offset := by
  rcases h.eq_ok_or_error with ⟨o, hx, hy⟩ | ⟨s, _, _, hx, hy, hobstacle⟩
  · exact Or.inl ⟨o, hx, hy⟩
  · cases hobstacle with
    | @mismatch m m' hcode hoffset => exact Or.inr ⟨s, m, m', hx, hy, hcode, hoffset⟩
    | bareSegment =>
      rcases consume_of_run_eq_error hx with hconsume | ⟨s', -, -, heq⟩
      · exact absurd (Segments.bare_of_halt hconsume rfl) hbare
      · cases congrArg Halt.obstacle heq

end Pattern

end DsnBinding
