import DsnBinding.Proofs.Pattern.Derivation
import DsnBinding.Proofs.Segment

/-!
The keys of the captures. Whatever becomes of a segment that is consumed, the captures have the keys
that they had before and behind them the new names of the segment, in the order of the template. A
group that is left out, because it cannot begin or because it was undone, gives the empty text to
those of its names that had none, and to no others.
-/
namespace DsnBinding

theorem Cursor.keys_leaveOut (s : Cursor) (names : List Text) :
    (s.leaveOut names).captures.keys = adjoin s.captures.keys names :=
  OrderedMap.keys_foldl_insertIfNew s.captures names []

theorem Cursor.get?_leaveOut (s : Cursor) (names : List Text) (name : Text) :
    (s.leaveOut names).captures.get? name =
      (s.captures.get? name).or (if name ∈ names then some [] else none) := by
  by_cases h : name ∈ names <;> simp [leaveOut, OrderedMap.get?_foldl_insertIfNew, h]

/-- A group that is consumed is left out, unless its contents can begin here and are consumed. -/
theorem Segment.consume_group_eq_ok {inner : Segments} {s s' : Cursor}
    (h : (Segment.group inner).consume s = .ok s') :
    Segments.start s.rest inner = true ∧ Segments.consume inner s = .ok s' ∨
      s' = s.leaveOut (Segments.names inner) := by
  unfold consume at h
  split at h
  · rename_i hstart
    split at h
    · rename_i s'' hinner
      obtain rfl := Except.ok.inj h
      exact Or.inl ⟨hstart, hinner⟩
    · exact Or.inr (Halt.leaveGroup_eq_ok h).1
  · exact Or.inr (Except.ok.inj h).symm

theorem Segment.keys_consume {segment : Segment} {s s' : Cursor}
    (hinner : ∀ inner, segment = .group inner → ∀ {s s' : Cursor},
      Segments.consume inner s = .ok s' →
        s'.captures.keys = adjoin s.captures.keys (Segments.names inner))
    (h : segment.consume s = .ok s') :
    s'.captures.keys = adjoin s.captures.keys segment.names := by
  cases segment with
  | literal text =>
    unfold consume at h
    split at h
    · obtain rfl := Except.ok.inj h
      exact (adjoin_nil s.captures.keys).symm
    · cases h
  | choice options =>
    unfold consume at h
    split at h
    · obtain rfl := Except.ok.inj h
      exact (adjoin_nil s.captures.keys).symm
    · obtain rfl := Except.ok.inj h
      exact (adjoin_nil s.captures.keys).symm
    · cases h
  | capture name stops offset =>
    obtain rfl := Except.ok.inj h
    exact OrderedMap.keys_insert_eq_adjoin s.captures name (s.rest.upTo stops)
  | group inner =>
    rcases consume_group_eq_ok h with ⟨-, hconsume⟩ | rfl
    · exact hinner inner rfl hconsume
    · exact s.keys_leaveOut (Segments.names inner)
  | bare => cases h

theorem Segments.keys_consume {segments : Segments} {s s' : Cursor}
    (h : consume segments s = .ok s') :
    s'.captures.keys = adjoin s.captures.keys (names segments) := by
  induction segments using nestedInduction generalizing s s' with
  | nil =>
    obtain rfl := Except.ok.inj h
    exact (adjoin_nil s.captures.keys).symm
  | cons segment rest hinner ih =>
    unfold consume at h
    split at h
    · rename_i s'' hsegment
      rw [ih h, Segment.keys_consume hinner hsegment, names, adjoin_append]
    · cases h

namespace Pattern

/-- A match captures each variable once, in the order in which the template first has them. Wherever
a group of the pattern is left out, no earlier capture is lost or replaced, and the variables of the
group that were not captured yet come next, in their order and with empty texts. -/
theorem run_keys {p : Pattern} {text : Text} {o : Outcome} (h : p.run text = .ok o) :
    o.captures.keys = p.names.eraseDups ∧
      ∀ inner ∈ Segments.groups p.segments, ∀ s s', (Segment.group inner).consume s = .ok s' →
        Segments.start s.rest inner = false ∨ (∃ halt, Segments.consume inner s = .error halt) →
        s'.captures.keys = s.captures.keys ++
            ((Segments.names inner).filter fun name => !s.captures.keys.contains name).eraseDups ∧
          (∀ name ∈ s.captures.keys, s'.captures.get? name = s.captures.get? name) ∧
          ∀ name ∈ Segments.names inner, name ∉ s.captures.keys →
            s'.captures.get? name = some [] := by
  refine ⟨?_, ?_⟩
  · obtain ⟨s, hconsume, -, hcaptures, -⟩ := consume_of_run h
    rw [hcaptures, Segments.keys_consume hconsume]
    exact nil_adjoin p.names
  · intro inner _ s s' hgroup hout
    have hleft : s' = s.leaveOut (Segments.names inner) := by
      rcases Segment.consume_group_eq_ok hgroup with ⟨hstart, hconsume⟩ | hleft
      · rcases hout with hstart' | ⟨halt, hhalt⟩
        · cases hstart.symm.trans hstart'
        · cases hconsume.symm.trans hhalt
      · exact hleft
    subst hleft
    refine ⟨?_, ?_, ?_⟩
    · rw [s.keys_leaveOut]
      rfl
    · intro name hname
      obtain ⟨t, ht⟩ := Option.isSome_iff_exists.1 (OrderedMap.contains_iff.2 hname)
      rw [s.get?_leaveOut, ht]
      rfl
    · intro name hname hnew
      have hnone : s.captures.get? name = none := OrderedMap.lookup_eq_none.2 hnew
      rw [s.get?_leaveOut, hnone, if_pos hname]
      rfl

/-- The group captures both names, one of them a second time, before it is undone. -/
theorem run_keys_undone_group :
    let inner : Segments := [.group [.capture ['B'] [['#']] 4, .literal ['#']],
      .capture ['A'] [['/']] 8, .literal ['/'], .group [.literal ['@'], .capture ['C'] [] 13]]
    let p : Pattern :=
      ⟨[], [.capture ['A'] [[':']] 0, .group inner, .literal [':'], .capture ['B'] [] 17]⟩
    let s : Cursor := ⟨1, [':', 'b'], ⟨[(['A'], ['a'])]⟩, 0⟩
    p.run ['a', ':', 'b'] = .ok ⟨⟨[(['A'], ['a']), (['B'], ['b']), (['C'], [])]⟩, [], 3, 1⟩ ∧
      p.names.eraseDups = [['A'], ['B'], ['C']] ∧
      Segments.consume (p.segments.take 1) (Cursor.start ['a', ':', 'b']) = .ok s ∧
      (∃ halt, Segments.consume inner s = .error halt ∧
        halt.cursor.captures.get? ['A'] ≠ some ['a']) ∧
      ∃ s', (Segment.group inner).consume s = .ok s' ∧
        s'.captures.keys = [['A'], ['B'], ['C']] ∧
        s'.captures.get? ['A'] = some ['a'] ∧ s'.captures.get? ['B'] = some [] := by
  intro inner p s
  have h : p.run ['a', ':', 'b'] =
      .ok ⟨⟨[(['A'], ['a']), (['B'], ['b']), (['C'], [])]⟩, [], 3, 1⟩ := rfl
  obtain ⟨hkeys, hgroups⟩ := run_keys h
  have hmem : inner ∈ Segments.groups p.segments := List.mem_cons_self
  obtain ⟨hnew, hkept, hempty⟩ := hgroups inner hmem s _ rfl (Or.inr ⟨_, rfl⟩)
  exact ⟨h, hkeys.symm, rfl, ⟨_, rfl, by decide⟩, _, rfl, hnew, hkept ['A'] List.mem_cons_self,
    hempty ['B'] (by decide) (by decide)⟩

end Pattern

end DsnBinding
