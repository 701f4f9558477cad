import DsnBinding.Dsn.Formatting
import DsnBinding.Proofs.Pattern.Printing
import DsnBinding.Proofs.Pattern.Rewriting
import DsnBinding.Proofs.Template.Brackets

/-!
Groups in another pair of brackets. A group that contains nothing but a group can be absent, is
entered, is undone and is written exactly if the inner one is, and a mismatch that is wrapped twice
is a partial group at the same offset as one that is wrapped once. The captures behind the new
bracket stand further on in the template, but neither their stops nor anything that is matched or
written depends on that.
-/
namespace DsnBinding

/-- A group is put in another pair of brackets. -/
inductive Segment.Doubles : Segment → Segment → Prop
  | group (inner : Segments) : Segment.Doubles (.group inner) (.group [.group inner])

/-- A capture stands elsewhere in its template. -/
inductive Segment.Moves : Segment → Segment → Prop
  | capture (name : Text) (stops : List Text) (offset offset' : Nat) :
      Segment.Moves (.capture name stops offset) (.capture name stops offset')

/-- Segments of which the same is written for every filling. -/
structure Segment.WritesLike (a b : Segment) : Prop where
  hasText : ∀ filling, a.hasText filling = b.hasText filling
  write : ∀ filling written, a.write filling written = b.write filling written

structure Segments.WriteLike (a b : Segments) : Prop where
  hasText : ∀ filling, hasText filling a = hasText filling b
  write : ∀ filling written, write filling a written = write filling b written

/-- What gets out of a group once gets out of it again. -/
theorem Halt.alike_leaveGroup {halt halt' : Halt} {entry : Cursor} {names : List Text}
    (h : halt.leaveGroup entry names = .error halt') :
    @Halt.Alike Cursor (.error halt') (halt'.leaveGroup entry names) := by
  rcases leaveGroup_eq_error h with ⟨hbare, rfl⟩ | ⟨cause, -, hne, rfl⟩
  · rw [leaveGroup, hbare]
    exact .refl _
  · simp only [leaveGroup, if_neg hne]
    exact .error halt.cursor (.mismatch rfl rfl)

namespace Segment

variable {a b : Segment}

theorem Moves.matchesLike (h : a.Moves b) : a.MatchesLike b := by
  cases h
  exact ⟨rfl, rfl, fun _ => rfl, fun _ => .refl _⟩

theorem Moves.writesLike (h : a.Moves b) : a.WritesLike b := by
  cases h
  exact ⟨fun _ => rfl, fun _ _ => rfl⟩

theorem Doubles.matchesLike (h : a.Doubles b) : a.MatchesLike b := by
  obtain ⟨inner⟩ := h
  have hnames : Segments.names [.group inner] = Segments.names inner := by
    rw [Segments.names, Segments.names, List.append_nil, names]
  have hstart : ∀ t, Segments.start t [.group inner] = Segments.start t inner := by
    intro t
    rw [Segments.start, starts?, Segments.start]
    cases Segments.start t inner <;> rfl
  refine ⟨rfl, hnames.symm, ?_, ?_⟩
  · intro t
    rw [starts?, starts?, hstart]
  · intro s
    have hsingle : Segments.consume [.group inner] s = (Segment.group inner).consume s := by
      rw [Segments.consume]
      cases (Segment.group inner).consume s <;> rfl
    cases hentered : Segments.start s.rest inner with
    | false =>
      simp only [consume, hstart, hentered, hnames]
      exact .ok _
    | true =>
      cases hconsume : (Segment.group inner).consume s with
      | ok s' =>
        have houter : (Segment.group [.group inner]).consume s = .ok s' := by
          rw [consume, hstart, if_pos hentered, hsingle, hconsume]
        exact houter ▸ .ok s'
      | error halt =>
        have houter : (Segment.group [.group inner]).consume s =
            halt.leaveGroup s (Segments.names inner) := by
          rw [consume, hstart, if_pos hentered, hsingle, hconsume, hnames]
        rw [consume, if_pos hentered] at hconsume
        rw [houter]
        split at hconsume
        · cases hconsume
        · exact Halt.alike_leaveGroup hconsume

theorem Doubles.writesLike (h : a.Doubles b) : a.WritesLike b := by
  obtain ⟨inner⟩ := h
  have htext : ∀ filling, Segments.hasText filling [.group inner] =
      Segments.hasText filling inner := by
    intro filling
    rw [Segments.hasText, Segments.hasText, Bool.or_false, hasText]
  refine ⟨fun filling => (htext filling).symm, ?_⟩
  intro filling written
  rw [write, write, htext, Segments.write, Segments.write, write]
  cases Segments.hasText filling inner <;> rfl

theorem Doubles.heads (h : a.Doubles b) : a.heads = b.heads := by
  obtain ⟨inner⟩ := h
  rw [Segment.heads, Segment.heads, Segments.heads, Segments.heads, Heads.followedBy_nothing,
    Segment.heads]

theorem Doubles.leaves (h : a.Doubles b) : a.leaves = b.leaves := by
  obtain ⟨inner⟩ := h
  rw [Segment.leaves, Segment.leaves, Segments.leaves, Segments.leaves, List.append_nil,
    Segment.leaves]

/-- A capture in two pairs of brackets is followed by what follows it in one. -/
theorem Doubles.exists_withStops {a' : Segment} {next : Heads} (h : a.Doubles b)
    (ha : a.withStops next = .ok a') : ∃ b', b.withStops next = .ok b' ∧ a'.Doubles b' := by
  obtain ⟨inner⟩ := h
  obtain ⟨inner', hinner, rfl⟩ := withStops_group_eq_ok.1 ha
  refine ⟨.group [.group inner'], withStops_group_eq_ok.2 ⟨[.group inner'], ?_, rfl⟩, .group inner'⟩
  exact Segments.withStops_cons_eq_ok.2 ⟨_, [], by simpa [Segments.heads] using ha, rfl, rfl⟩

end Segment

namespace Segments.Rewrites

variable {R : Segment → Segment → Prop} {a b : Segments}

theorem writeLike (hR : ∀ a b, R a b → a.WritesLike b) (h : Rewrites R a b) : WriteLike a b := by
  induction h with
  | nil => exact ⟨fun _ => rfl, fun _ _ => rfl⟩
  | keep segment _ ih =>
    refine ⟨?_, ?_⟩
    · intro filling
      rw [hasText, hasText, ih.hasText]
    · intro filling written
      rw [write, write, ih.write]
  | step hfirst _ ih =>
    have hsegment := hR _ _ hfirst
    refine ⟨?_, ?_⟩
    · intro filling
      rw [hasText, hasText, hsegment.hasText, ih.hasText]
    · intro filling written
      rw [write, write, hsegment.write, ih.write]
  | inside _ _ ihinner ih =>
    refine ⟨?_, ?_⟩
    · intro filling
      rw [hasText, hasText, Segment.hasText, Segment.hasText, ihinner.hasText, ih.hasText]
    · intro filling written
      rw [write, write, Segment.write, Segment.write, ihinner.hasText, ihinner.write, ih.write]

theorem heads (hR : ∀ a b, R a b → a.heads = b.heads) (h : Rewrites R a b) :
    Segments.heads a = Segments.heads b := by
  induction h with
  | nil => rfl
  | keep segment _ ih => rw [Segments.heads, Segments.heads, ih]
  | step hfirst _ ih => rw [Segments.heads, Segments.heads, hR _ _ hfirst, ih]
  | inside _ _ ihinner ih =>
    rw [Segments.heads, Segments.heads, Segment.heads, Segment.heads, ihinner, ih]

theorem leaves (hR : ∀ a b, R a b → a.leaves = b.leaves) (h : Rewrites R a b) :
    Segments.leaves a = Segments.leaves b := by
  induction h with
  | nil => rfl
  | keep segment _ ih => rw [Segments.leaves, Segments.leaves, ih]
  | step hfirst _ ih => rw [Segments.leaves, Segments.leaves, hR _ _ hfirst, ih]
  | inside _ _ ihinner ih =>
    rw [Segments.leaves, Segments.leaves, Segment.leaves, Segment.leaves, ihinner, ih]

theorem exists_withStops {a' : Segments} {next : Heads} (h : Rewrites Segment.Doubles a b)
    (ha : withStops next a = .ok a') :
    ∃ b', withStops next b = .ok b' ∧ Rewrites Segment.Doubles a' b' := by
  induction h generalizing a' next with
  | nil =>
    obtain rfl := Except.ok.inj ha
    exact ⟨[], rfl, .nil⟩
  | keep segment h ih =>
    obtain ⟨segment', rest, hsegment, hrest, rfl⟩ := withStops_cons_eq_ok.1 ha
    obtain ⟨rest', hrest', hrewrites⟩ := ih hrest
    rw [h.heads fun _ _ => Segment.Doubles.heads] at hsegment
    exact ⟨segment' :: rest', withStops_cons_eq_ok.2 ⟨_, _, hsegment, hrest', rfl⟩,
      .keep segment' hrewrites⟩
  | step hfirst h ih =>
    obtain ⟨_, rest, hsegment, hrest, rfl⟩ := withStops_cons_eq_ok.1 ha
    obtain ⟨rest', hrest', hrewrites⟩ := ih hrest
    rw [h.heads fun _ _ => Segment.Doubles.heads] at hsegment
    obtain ⟨segment', hsegment', hdoubles⟩ := hfirst.exists_withStops hsegment
    exact ⟨segment' :: rest', withStops_cons_eq_ok.2 ⟨_, _, hsegment', hrest', rfl⟩,
      .step hdoubles hrewrites⟩
  | inside _ h ihinner ih =>
    obtain ⟨_, rest, hsegment, hrest, rfl⟩ := withStops_cons_eq_ok.1 ha
    obtain ⟨rest', hrest', hrewrites⟩ := ih hrest
    rw [h.heads fun _ _ => Segment.Doubles.heads] at hsegment
    obtain ⟨_, hinner, rfl⟩ := Segment.withStops_group_eq_ok.1 hsegment
    obtain ⟨inner', hinner', hrewritesInner⟩ := ihinner hinner
    have hgroup := Segment.withStops_group_eq_ok.2 ⟨inner', hinner', rfl⟩
    exact ⟨.group inner' :: rest', withStops_cons_eq_ok.2 ⟨_, _, hgroup, hrest', rfl⟩,
      .inside hrewritesInner hrewrites⟩

theorem withChar (c : Char) (h : Rewrites Segment.Doubles a b) :
    Rewrites Segment.Doubles (a.withChar c) (b.withChar c) := by
  cases h with
  | nil => exact .keep (.literal [c]) .nil
  | keep segment h =>
    cases segment with
    | literal text => exact .keep (.literal (c :: text)) h
    | capture _ _ _ | choice _ | group _ | bare => exact .keep (.literal [c]) (.keep _ h)
  | step hfirst h =>
    obtain ⟨inner⟩ := hfirst
    exact .keep (.literal [c]) (.step (.group inner) h)
  | inside hinner h => exact .keep (.literal [c]) (.inside hinner h)

end Segments.Rewrites

namespace Segments

theorem rewrites_withoutOffsets (segments : Segments) :
    Rewrites Segment.Moves segments segments.withoutOffsets := by
  induction segments using nestedInduction with
  | nil => exact .nil
  | cons segment rest hinner ih =>
    cases segment with
    | capture name stops offset => exact .step (.capture name stops offset 0) ih
    | group inner => exact .inside (hinner inner rfl) ih
    | literal _ | choice _ | bare => exact .keep _ ih

theorem names_withoutOffsets (segments : Segments) :
    names (withoutOffsets segments) = names segments :=
  (segments.rewrites_withoutOffsets.matchLike fun _ _ => Segment.Moves.matchesLike).names.symm

theorem write_withoutOffsets (filling : Filling) (segments : Segments) (written : Text) :
    write filling (withoutOffsets segments) written = write filling segments written :=
  ((segments.rewrites_withoutOffsets.writeLike fun _ _ => Segment.Moves.writesLike).write
    filling written).symm

end Segments

namespace Template

/-- A bracketed text of a template stands before the query separator. -/
theorem exists_of_bracketed {a x b t : Text}
    (h : a ++ bracketed x ++ b = t ∨ a ++ bracketed x ++ b = t ++ ['?']) :
    ∃ b', t = a ++ '[' :: (x ++ ']' :: b') ∧ (b = b' ∨ b = b' ++ ['?']) := by
  have hsplit : a ++ bracketed x ++ b = (a ++ '[' :: x) ++ ']' :: b := by simp [bracketed]
  rw [hsplit] at h
  rcases h with rfl | h
  · exact ⟨b, by simp, Or.inl rfl⟩
  · rcases Text.append_eq_append_cons h.symm with ⟨w, -, hend⟩ | ⟨b', rfl, rfl⟩
    · cases w with
      | nil => exact absurd (List.cons.inj hend).1 (by decide)
      | cons c w => simp at hend
    · exact ⟨b', by simp, Or.inr rfl⟩

/-- A bracket behind a text without one stands in what is behind the text. -/
theorem exists_of_opening_not_mem {w t a v : Text} (hw : '[' ∉ w) (h : w ++ t = a ++ '[' :: v) :
    ∃ u, a = w ++ u ∧ t = u ++ '[' :: v := by
  rcases Text.append_eq_append_cons h with hsome | ⟨u, rfl, -⟩
  · exact hsome
  · exact absurd (List.mem_append_right a List.mem_cons_self) hw

/-- If a bracketed part of what items are written as gets another pair of brackets, other items are
written so, which have one of the groups in another group. -/
theorem Item.Spells.doubled {items : List Item} {t a x b : Text} (h : Spells items t)
    (hx : IsBalanced x) (ht : t = a ++ '[' :: (x ++ ']' :: b)) :
    ∃ items', Spells items' (a ++ '[' :: '[' :: (x ++ ']' :: ']' :: b)) ∧
      Segments.Rewrites Segment.Doubles (mirrored items) (mirrored items') := by
  induction h generalizing a b with
  | nil => simp at ht
  | @plain c items t hc h ih =>
    obtain ⟨a, rfl, rfl⟩ := exists_of_opening_not_mem (w := [c]) (not_mem_plain hc rfl) ht
    obtain ⟨items', hspells, hrewrites⟩ := ih rfl
    exact ⟨.plain c :: items', .plain hc hspells, hrewrites.withChar c⟩
  | @capture name items t hname hend h ih =>
    have hnone := @not_mem_capture '[' name hname rfl (by decide)
    obtain ⟨a, rfl, rfl⟩ := exists_of_opening_not_mem hnone ht
    obtain ⟨items', hspells, hrewrites⟩ := ih rfl
    refine ⟨.capture name :: items', ?_, .keep (.capture name [] 0) hrewrites⟩
    rw [List.append_assoc]
    exact .capture hname (hend.of_append.append (endsBefore_cons rfl _)) hspells
  | @choice body items t hne hbody h ih =>
    have hnone := @not_mem_choice '[' body hbody rfl (by decide) (by decide)
    obtain ⟨a, rfl, rfl⟩ := exists_of_opening_not_mem hnone ht
    obtain ⟨items', hspells, hrewrites⟩ := ih rfl
    refine ⟨.choice body :: items', ?_, .keep (.choice (options body)) hrewrites⟩
    rw [List.append_assoc]
    exact .choice hne hbody hspells
  | @group inner items u t hne hinner h ihinner ih =>
    cases a with
    | nil =>
      -- The bracket is that of this group, and so is the one that closes it.
      have hsame : u ++ ']' :: t = x ++ ']' :: b := (List.cons.inj ht).2
      obtain ⟨rfl, rfl⟩ := hinner.isBalanced.eq_of_append hx hsame
      refine ⟨.group [.group inner] :: items, ?_, .step (.group (mirrored inner)) (.refl _)⟩
      simpa using Spells.group (List.cons_ne_nil _ _) (Spells.group hne hinner .nil) h
    | cons c a =>
      obtain ⟨rfl, htail⟩ : '[' = c ∧ u ++ ']' :: t = a ++ '[' :: (x ++ ']' :: b) := by
        simpa using ht
      rcases hinner.isBalanced.within_or_behind hx htail with ⟨c, rfl, rfl⟩ | ⟨c, rfl, rfl⟩
      · obtain ⟨inner', hspells, hrewrites⟩ := ihinner rfl
        have hne' : inner' ≠ [] := by
          rintro rfl
          generalize htext : a ++ '[' :: '[' :: (x ++ ']' :: ']' :: c) = text at hspells
          cases hspells
          simp at htext
        refine ⟨.group inner' :: items, ?_, .inside hrewrites (.refl _)⟩
        simpa using Spells.group hne' hspells h
      · obtain ⟨items', hspells, hrewrites⟩ := ih rfl
        refine ⟨.group inner :: items', ?_, .keep (.group (mirrored inner)) hrewrites⟩
        simpa using Spells.group hne hinner hspells

end Template

namespace Pattern

open Template

variable {p p' : Pattern}

/-- A template that compiles does so with a group of it in another pair of brackets, and then its
segments have that group in another group. -/
theorem exists_compile_bracketed {a x b : Text} (hx : IsBalanced x)
    (h : compile (a ++ bracketed x ++ b) = .ok p) :
    ∃ p', compile (a ++ bracketed (bracketed x) ++ b) = .ok p' ∧
      Segments.Rewrites Segment.Doubles p.segments.withoutOffsets p'.segments.withoutOffsets := by
  obtain ⟨items, t, hspells, htemplate, hmirrors⟩ := exists_mirrored_of_compile h
  obtain ⟨b', ht, hb⟩ := exists_of_bracketed htemplate
  obtain ⟨items', hspells', hrewrites⟩ := hspells.doubled hx ht
  have htemplate' : a ++ bracketed (bracketed x) ++ b =
        a ++ '[' :: '[' :: (x ++ ']' :: ']' :: b') ∨
      a ++ bracketed (bracketed x) ++ b = a ++ '[' :: '[' :: (x ++ ']' :: ']' :: b') ++ ['?'] :=
    hb.imp (by rintro rfl; simp [bracketed]) (by rintro rfl; simp [bracketed])
  obtain ⟨segments', houtline', -, hmirrors', -⟩ := hspells'.exists_outline htemplate'
  obtain ⟨result, hstops, hdoubled⟩ :=
    hrewrites.exists_withStops (hmirrors ▸ withStops_of_compile h)
  obtain ⟨p', hcompile, rfl⟩ := exists_compile_of_withStops houtline' (hmirrors' ▸ hstops)
  exact ⟨p', hcompile, hdoubled⟩

section Doubles

variable
  (h : Segments.Rewrites Segment.Doubles p.segments.withoutOffsets p'.segments.withoutOffsets)
include h

theorem names_of_doubles : p'.names = p.names := by
  rw [names, names, ← Segments.names_withoutOffsets p.segments,
    (h.matchLike fun _ _ => Segment.Doubles.matchesLike).names, Segments.names_withoutOffsets]

theorem run_alike_of_doubles (text : Text) : Halt.Alike (p.run text) (p'.run text) := by
  have hmoves : ∀ q : Pattern,
      Halt.Alike (q.run text) ((⟨q.template, q.segments.withoutOffsets⟩ : Pattern).run text) :=
    fun q => run_alike (fun _ _ => Segment.Moves.matchesLike)
      q.segments.rewrites_withoutOffsets text
  have hdoubles := @run_alike ⟨p.template, p.segments.withoutOffsets⟩
    ⟨p'.template, p'.segments.withoutOffsets⟩ _ (fun _ _ => Segment.Doubles.matchesLike) h text
  exact ((hmoves p).trans hdoubles).trans (hmoves p').symm

theorem write_of_doubles (filling : Filling) (written : Text) :
    Segments.write filling p'.segments written = Segments.write filling p.segments written := by
  rw [← Segments.write_withoutOffsets filling p.segments,
    (h.writeLike fun _ _ => Segment.Doubles.writesLike).write, Segments.write_withoutOffsets]

end Doubles

/-- A template that compiles does so with a group of it in another pair of brackets, at any depth.
Its variables then have the same stops, it comes to the same outcome for every text, or to a
mismatch with the same code and offset, and the same is written for every filling. -/
theorem compile_doubled_brackets {a x b : Text} (hx : IsBalanced x)
    (h : compile (a ++ bracketed x ++ b) = .ok p) :
    ∃ p', compile (a ++ bracketed (bracketed x) ++ b) = .ok p' ∧ p'.names = p.names ∧
      Segments.leaves p'.segments.withoutOffsets = Segments.leaves p.segments.withoutOffsets ∧
      (∀ text, (∃ o, p.run text = .ok o ∧ p'.run text = .ok o) ∨
        ∃ s m m', p.run text = .error ⟨s, .mismatch m⟩ ∧ p'.run text = .error ⟨s, .mismatch m'⟩ ∧
          m'.code = m.code ∧ m'.offset = m.offset) ∧
      ∀ filling written,
        Segments.write filling p'.segments written = Segments.write filling p.segments written := by
  obtain ⟨p', hcompile, hdoubles⟩ := exists_compile_bracketed hx h
  refine ⟨p', hcompile, names_of_doubles hdoubles, ?_, ?_, write_of_doubles hdoubles⟩
  · exact (hdoubles.leaves fun _ _ => Segment.Doubles.leaves).symm
  · exact fun text =>
      outcome_or_mismatch_of_alike (bare_not_mem_leaves h) (run_alike_of_doubles hdoubles text)

/-- The inner group of two is put in another pair of brackets. Its choice does not fit in the second
text, which is reported for one group more. -/
theorem compile_doubled_brackets_inner_group :
    let a : Text := ['$', 'A', '[', ':', '$', 'B']
    let x : Text := ['/', '(', 'x', '|', 'y', ')']
    let b : Text := [']', '#', '?']
    let p : Pattern := ⟨a ++ bracketed x ++ b,
      [.capture ['A'] [[':'], ['#']] 0, .group [.literal [':'], .capture ['B'] [['/'], ['#']] 4,
        .group [.literal ['/'], .choice [['x'], ['y']]]], .literal ['#']]⟩
    let o : Outcome := ⟨⟨[(['A'], ['c']), (['B'], ['d'])]⟩, [], 6, 4⟩
    IsBalanced x ∧ compile (a ++ bracketed x ++ b) = .ok p ∧
      ∃ p', compile (a ++ bracketed (bracketed x) ++ b) = .ok p' ∧ p'.names = [['A'], ['B']] ∧
        p'.run ['c', ':', 'd', '/', 'x', '#'] = .ok o ∧
        ∃ s m, p'.run ['c', ':', 'd', '/', 'z', '#'] = .error ⟨s, .mismatch m⟩ ∧
          m.code = "partial_group" ∧ m.offset = 4 := by
  intro a x b p o
  have hx : IsBalanced x := by decide
  have hcompile : compile (a ++ bracketed x ++ b) = .ok p := rfl
  obtain ⟨p', hcompile', hnames, -, hrun, -⟩ := compile_doubled_brackets hx hcompile
  refine ⟨hx, hcompile, p', hcompile', hnames, ?_, ?_⟩
  · rcases hrun ['c', ':', 'd', '/', 'x', '#'] with ⟨o', ho, ho'⟩ | ⟨_, _, _, ho, -⟩
    · cases ho
      exact ho'
    · cases ho
  · rcases hrun ['c', ':', 'd', '/', 'z', '#'] with ⟨_, ho, -⟩ | ⟨s, m, m', hm, hm', hcode, hoffset⟩
    · cases ho
    · refine ⟨s, m', hm', ?_, ?_⟩
      · rw [hcode]
        cases hm
        rfl
      · rw [hoffset]
        cases hm
        rfl

end Pattern

end DsnBinding
