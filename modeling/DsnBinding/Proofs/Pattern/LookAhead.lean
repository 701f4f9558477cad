import DsnBinding.Proofs.Pattern.Meeting

/-!
What the look-ahead of a group is worth. Before matching enters a group, it looks whether the
contents can begin here, and this agrees with the heads of the contents, from which the stops before
the group are computed. A group that is reached where one of its heads begins is entered and finds
an anchor, so that neither it nor a group around it is ever undone. What a match leaves out has no
head that begins where it was reached.
-/
namespace DsnBinding

/-- A group that matching came to. -/
structure Visit where
  contents : Segments
  cursor : Cursor
  /-- Whether its contents were consumed to their end, and those of the groups around it as well. -/
  present : Bool
  deriving DecidableEq

/-- A visit to a group inside another one, which is there only if the other one is. -/
def Visit.within (v : Visit) (present : Bool) : Visit := { v with present := v.present && present }

mutual

/-- The groups that matching comes to in a segment, also those in a group that is undone later. -/
def Segment.visits (s : Cursor) : Segment → List Visit
  | .group inner =>
    if Segments.start s.rest inner then
      let present := (Segments.consume inner s).isOk
      ⟨inner, s, present⟩ :: (Segments.visits s inner).map (·.within present)
    else [⟨inner, s, false⟩]
  | .literal _ | .capture .. | .choice _ | .bare => []

def Segments.visits (s : Cursor) : Segments → List Visit
  | [] => []
  | segment :: rest =>
    segment.visits s ++
      match segment.consume s with
      | .ok s' => Segments.visits s' rest
      | .error _ => []

end

theorem Segment.mem_visits {segment : Segment} {s : Cursor} {v : Visit}
    (h : v ∈ segment.visits s) :
    ∃ inner, segment = .group inner ∧
      (Segments.start s.rest inner = false ∧ v = ⟨inner, s, false⟩ ∨
        Segments.start s.rest inner = true ∧
          (v = ⟨inner, s, (Segments.consume inner s).isOk⟩ ∨
            ∃ w ∈ Segments.visits s inner, v = w.within (Segments.consume inner s).isOk)) := by
  cases segment with
  | group inner =>
    refine ⟨inner, rfl, ?_⟩
    unfold visits at h
    split at h
    · rename_i hstart
      refine Or.inr ⟨hstart, ?_⟩
      rcases List.mem_cons.1 h with rfl | h
      · exact Or.inl rfl
      · obtain ⟨w, hw, rfl⟩ := List.mem_map.1 h
        exact Or.inr ⟨w, hw, rfl⟩
    · rename_i hstart
      exact Or.inl ⟨by simpa using hstart, List.mem_singleton.1 h⟩
  | literal _ | capture _ _ _ | choice _ | bare => cases h

theorem Segments.mem_visits_cons {segment : Segment} {rest : Segments} {s : Cursor} {v : Visit} :
    v ∈ visits s (segment :: rest) ↔
      v ∈ segment.visits s ∨ ∃ s', segment.consume s = .ok s' ∧ v ∈ visits s' rest := by
  rw [visits, List.mem_append]
  cases segment.consume s with
  | ok s' => simp
  | error halt => simp

theorem Cursor.AdvancesBy.rest_eq_drop {s s' : Cursor} {pieces : Pieces} {text : Text}
    (h : s.AdvancesBy pieces s') (hs : s.rest = text.drop s.position) :
    s'.rest = text.drop s'.position := by
  rw [h.position, ← List.drop_drop, ← hs, h.rest, List.drop_left]

namespace Segments

theorem rest_eq_drop_of_mem_visits {segments : Segments} {s : Cursor} {v : Visit} {text : Text}
    (hs : s.rest = text.drop s.position) (hv : v ∈ visits s segments) :
    v.cursor.rest = text.drop v.cursor.position := by
  induction segments using nestedInduction generalizing s v with
  | nil => cases hv
  | cons segment rest hinner ih =>
    rcases mem_visits_cons.1 hv with hv | ⟨s', hsegment, hv⟩
    · obtain ⟨inner, rfl, ⟨-, rfl⟩ | ⟨-, rfl | ⟨w, hw, rfl⟩⟩⟩ := Segment.mem_visits hv
      · exact hs
      · exact hs
      · have hrest : w.cursor.rest = text.drop w.cursor.position := hinner inner rfl hs hw
        exact hrest
    · obtain ⟨_, -, hadvances⟩ := Segment.exists_derives segment hsegment
      exact ih (hadvances.rest_eq_drop hs) hv

/-- Consuming a sequence finds an anchor, whether it comes to the end or to a mismatch. -/
structure IsAnchored (segments : Segments) (s : Cursor) : Prop where
  consumes : ∀ s', consume segments s = .ok s' → s.anchors < s'.anchors
  halts : ∀ halt cause, consume segments s = .error halt → halt.obstacle = .mismatch cause →
    s.anchors < halt.cursor.anchors

theorem IsMet.isAnchored {segments : Segments} {s : Cursor} (h : IsMet segments s.rest) :
    IsAnchored segments s := by
  refine ⟨?_, ?_⟩
  · intro s' hconsume
    obtain ⟨pieces, hfinds, hadvances⟩ := (isCovered segments).finds s s' hconsume
    have hanchors := (h.finds pieces hfinds).1
    have heq := hadvances.anchors
    omega
  · intro halt cause hconsume hcause
    obtain ⟨hle, hmisses⟩ := (isCovered segments).misses s halt cause hconsume hcause
    exact Nat.lt_of_le_of_ne hle fun heq => h.not_misses (hmisses heq.symm)

namespace IsAnchored

variable {segment : Segment} {inner rest : Segments} {s s' : Cursor}

theorem behind (h : IsAnchored rest s') (hsegment : segment.consume s = .ok s') :
    IsAnchored (segment :: rest) s := by
  obtain ⟨_, -, hadvances⟩ := Segment.exists_derives segment hsegment
  have hle : s.anchors ≤ s'.anchors := by
    rw [hadvances.anchors]
    exact Nat.le_add_right _ _
  refine ⟨?_, ?_⟩
  · intro s'' hconsume
    rw [consume, hsegment] at hconsume
    exact Nat.lt_of_le_of_lt hle (h.consumes s'' hconsume)
  · intro halt cause hconsume hcause
    rw [consume, hsegment] at hconsume
    exact Nat.lt_of_le_of_lt hle (h.halts halt cause hconsume hcause)

/-- A group whose contents find an anchor is not undone. -/
theorem consume_eq_ok (h : IsAnchored inner s) (hstart : start s.rest inner = true)
    (hgroup : (Segment.group inner).consume s = .ok s') : consume inner s = .ok s' := by
  rw [Segment.consume, if_pos hstart] at hgroup
  split at hgroup
  · rename_i s'' hconsume
    rw [hconsume, hgroup]
  · rename_i halt hconsume
    obtain ⟨-, cause, hcause, hanchors⟩ := Halt.leaveGroup_eq_ok hgroup
    have hlt := h.halts halt cause hconsume hcause
    omega

theorem group (h : IsAnchored inner s) (hstart : start s.rest inner = true) (rest : Segments) :
    IsAnchored (.group inner :: rest) s := by
  refine ⟨?_, ?_⟩
  · intro s'' hconsume
    unfold consume at hconsume
    split at hconsume
    · rename_i s' hsegment
      have hlt := h.consumes s' (h.consume_eq_ok hstart hsegment)
      obtain ⟨_, -, hadvances⟩ := exists_derives rest hconsume
      have heq := hadvances.anchors
      omega
    · cases hconsume
  · intro halt cause hconsume hcause
    -- Either what stands behind the group halts, or the group passes on the halt of its contents.
    unfold consume at hconsume
    split at hconsume
    · rename_i s' hsegment
      have hlt := h.consumes s' (h.consume_eq_ok hstart hsegment)
      obtain ⟨hle, -⟩ := (isCovered rest).misses s' halt cause hconsume hcause
      omega
    · rename_i halt' hsegment
      obtain rfl := Except.error.inj hconsume
      rcases Segment.consume_eq_error hsegment with ⟨_, hmisfits, -⟩ |
        ⟨inner', halt'', heq, -, hinner, hleave⟩ | ⟨heq, -⟩
      · cases hmisfits
      · obtain rfl := Segment.group.inj heq
        rcases Halt.leaveGroup_eq_error hleave with ⟨hbare, rfl⟩ | ⟨cause', hcause', -, rfl⟩
        · rw [hbare] at hcause
          cases hcause
        · exact h.halts halt'' cause' hinner hcause'
      · cases heq

end IsAnchored

variable {segment : Segment} {segments rest : Segments} {next : Heads} {s s' : Cursor} {v : Visit}

/-- A group that is reached where one of its heads begins, or that holds such a group, is entered
and finds an anchor. -/
theorem IsResolved.entered_of_opens (h : IsResolved next (segment :: rest))
    (hinner : ∀ inner, segment = .group inner → ∀ {next : Heads} {s : Cursor} {v : Visit},
      IsResolved next inner → v ∈ visits s inner → (heads v.contents).Opens v.cursor.rest →
        IsAnchored inner s)
    (hv : v ∈ segment.visits s) (hopens : (heads v.contents).Opens v.cursor.rest) :
    ∃ inner, segment = .group inner ∧ start s.rest inner = true ∧ IsAnchored inner s ∧
      (v = ⟨inner, s, (consume inner s).isOk⟩ ∨
        ∃ w ∈ visits s inner, v = w.within (consume inner s).isOk) := by
  obtain ⟨inner, rfl, hvisit⟩ := Segment.mem_visits hv
  rcases hvisit with ⟨hstart, rfl⟩ | ⟨hstart, rfl | ⟨w, hw, rfl⟩⟩
  · rw [start_iff_beginsAt.2 (Or.inl hopens)] at hstart
    cases hstart
  · have hmet : IsMet inner s.rest := h.inner.isMet_of_opens hopens
    exact ⟨inner, rfl, hstart, hmet.isAnchored, Or.inl rfl⟩
  · exact ⟨inner, rfl, hstart, hinner inner rfl h.inner hw hopens, Or.inr ⟨w, hw, rfl⟩⟩

/-- Where matching comes to a group with a head that begins there, it finds an anchor, also if the
group stands in a group that it entered before. -/
theorem IsResolved.isAnchored_of_opens (h : IsResolved next segments) (hv : v ∈ visits s segments)
    (hopens : (heads v.contents).Opens v.cursor.rest) : IsAnchored segments s := by
  induction segments using nestedInduction generalizing next s v with
  | nil => cases hv
  | cons segment rest hinner ih =>
    rcases mem_visits_cons.1 hv with hv | ⟨s', hconsume, hv⟩
    · obtain ⟨inner, rfl, hstart, hanchored, -⟩ := h.entered_of_opens hinner hv hopens
      exact hanchored.group hstart rest
    · exact (ih h.rest hv hopens).behind hconsume

/-- A group that is reached where one of its heads begins is there in the end, if the sequence is
matched. -/
theorem IsResolved.present_of_opens (h : IsResolved next segments)
    (hconsume : consume segments s = .ok s') (hv : v ∈ visits s segments)
    (hopens : (heads v.contents).Opens v.cursor.rest) : v.present = true := by
  induction segments using nestedInduction generalizing next s s' v with
  | nil => cases hv
  | cons segment rest hinner ih =>
    unfold consume at hconsume
    split at hconsume
    · rename_i s'' hsegment
      rcases mem_visits_cons.1 hv with hv | ⟨s₁, hsegment', hv⟩
      · obtain ⟨inner, rfl, hstart, hanchored, hvisit⟩ :=
          h.entered_of_opens (fun _ _ => isAnchored_of_opens) hv hopens
        have hentered := hanchored.consume_eq_ok hstart hsegment
        rw [hentered] at hvisit
        rcases hvisit with rfl | ⟨w, hw, rfl⟩
        · rfl
        · have hpresent : w.present = true := hinner inner rfl h.inner hentered hw hopens
          rw [Visit.within, hpresent]
          rfl
      · obtain rfl := Except.ok.inj (hsegment.symm.trans hsegment')
        exact ih h.rest hconsume hv hopens
    · cases hconsume

end Segments

namespace Pattern

theorem isResolved_compile {template : Text} {p : Pattern} (h : compile template = .ok p) :
    Segments.IsResolved Heads.nothing p.segments where
  stops := (compile_eq_ok h).2.2
  literals _ hmem := (literal_compile h hmem).1

/-- At each place of a text, the look-ahead finds that a sequence can begin exactly if one of its
heads begins there or a capture that can come first has some text there. So wherever a match comes
to a group and leaves it out, at any depth, none of the heads of the group begins. -/
theorem run_look_ahead :
    (∀ (segments : Segments) (text : Text) (position : Nat),
      Segments.start (text.drop position) segments = true ↔
        (∃ literal ∈ (Segments.heads segments).literals, literal <+: text.drop position) ∨
          ∃ name stops, Segments.CanBegin name stops segments ∧
            Text.upTo stops (text.drop position) ≠ []) ∧
      ∀ template p text o, compile template = .ok p → p.run text = .ok o →
        ∀ v ∈ Segments.visits (Cursor.start text) p.segments, v.present = false →
          ∀ literal ∈ (Segments.heads v.contents).literals,
            ¬ literal <+: text.drop v.cursor.position := by
  refine ⟨fun _ _ _ => Segments.start_iff_beginsAt, ?_⟩
  intro template p text o hcompile hrun v hv habsent literal hliteral hbegins
  obtain ⟨s, hconsume, -⟩ := consume_of_run hrun
  have hrest : v.cursor.rest = text.drop v.cursor.position :=
    Segments.rest_eq_drop_of_mem_visits rfl hv
  have hopens : (Segments.heads v.contents).Opens v.cursor.rest :=
    ⟨literal, hliteral, hrest ▸ hbegins⟩
  have hpresent := (isResolved_compile hcompile).present_of_opens hconsume hv hopens
  rw [habsent] at hpresent
  cases hpresent

/-- The outer group can begin here for its first variable, though its literal does not, and is
undone with the group in it. -/
theorem run_look_ahead_undone_group :
    let template : Text := ['[', '[', '$', 'B', ':', ']', '/', '$', 'C', ']', '#', '$', 'D']
    let inner : Segments := [.capture ['B'] [[':']] 2, .literal [':']]
    let outer : Segments := [.group inner, .literal ['/'], .capture ['C'] [['#']] 7]
    let p : Pattern := ⟨template, [.group outer, .literal ['#'], .capture ['D'] [] 11]⟩
    let text : Text := ['#', 'd']
    let s := Cursor.start text
    compile template = .ok p ∧ (∃ o, p.run text = .ok o) ∧
      Segments.visits s p.segments = [⟨outer, s, false⟩, ⟨inner, s, false⟩] ∧
      Segments.start text outer = true ∧
      ((∃ literal ∈ (Segments.heads outer).literals, literal <+: text) ∨
        ∃ name stops, Segments.CanBegin name stops outer ∧ Text.upTo stops text ≠ []) ∧
      (Segments.heads outer).literals = [['/']] ∧ ¬ ['/'] <+: text := by
  intro template inner outer p text s
  obtain ⟨hstart, habsent⟩ := run_look_ahead
  have hcompile : compile template = .ok p := by rfl
  have hrun : ∃ o, p.run text = .ok o := ⟨_, rfl⟩
  obtain ⟨o, hrun⟩ := hrun
  have hvisits : Segments.visits s p.segments = [⟨outer, s, false⟩, ⟨inner, s, false⟩] := by rfl
  have houter : (⟨outer, s, false⟩ : Visit) ∈ Segments.visits s p.segments := by
    rw [hvisits]
    exact List.mem_cons_self
  refine ⟨hcompile, ⟨o, hrun⟩, hvisits, rfl, (hstart outer text 0).1 rfl, rfl, ?_⟩
  exact habsent template p text o hcompile hrun _ houter rfl ['/'] List.mem_cons_self

end Pattern

end DsnBinding
