import DsnBinding.Proofs.Pattern.Finding

/-!
The captures of a derivation. It accounts for the names of its sequence and for no others: each of
them is captured, or it is missing with the group that holds it. What is captured stands in the text
that the pieces make up.
-/
namespace DsnBinding

mutual

theorem Piece.infix_text {name t : Text} : (piece : Piece) → t ∈ piece.captured name →
    t <:+: piece.text
  | .capture name' text, h => by
    unfold Piece.captured at h
    split at h
    · obtain rfl := List.mem_singleton.1 h
      exact List.infix_rfl
    · cases h
  | .present pieces, h => Pieces.infix_text pieces h
  | .literal _, h | .option _, h | .absent _, h => by cases h

theorem Pieces.infix_text {name t : Text} : (pieces : Pieces) → t ∈ Pieces.captured name pieces →
    t <:+: Pieces.text pieces
  | [], h => by cases h
  | piece :: rest, h => by
    rcases List.mem_append.1 h with h | h
    · exact (Piece.infix_text piece h).trans (List.prefix_append _ _).isInfix
    · exact (Pieces.infix_text rest h).trans (List.suffix_append _ _).isInfix

end

namespace Pieces

variable {piece : Piece} {pieces : Pieces} {name : Text}

theorem value?_cons_of_first (h : captured name pieces = [] ∧ name ∉ missing pieces) :
    value? (piece :: pieces) name = value? [piece] name := by
  simp [value?, captured, missing, h.1, h.2]

theorem value?_cons_of_others (h : piece.captured name = [] ∧ name ∉ piece.missing) :
    value? (piece :: pieces) name = value? pieces name := by
  simp [value?, captured, missing, h.1, h.2]

@[simp]
theorem value?_capture (name text : Text) : value? [.capture name text] name = some text := by
  simp [value?, captured, Piece.captured]

@[simp]
theorem value?_present (pieces : Pieces) (name : Text) :
    value? [.present pieces] name = value? pieces name := by
  simp [value?, captured, missing, Piece.captured, Piece.missing]

theorem value?_absent {names : List Text} (h : name ∈ names) :
    value? [.absent names] name = some [] := by
  simp [value?, captured, missing, Piece.captured, Piece.missing, h]

/-- A name has a text if all its captures have this text and the text is empty where a capture of
the name is missing. -/
theorem value?_eq_some {t : Text}
    (h : captured name pieces ≠ [] ∨ name ∈ missing pieces)
    (hcaptured : ∀ u ∈ captured name pieces, u = t) (hmissing : name ∈ missing pieces → t = []) :
    value? pieces name = some t := by
  unfold value?
  cases hlast : (captured name pieces).getLast? with
  | some u =>
    rw [hcaptured u (List.mem_of_getLast? hlast)]
    rfl
  | none =>
    have hname : name ∈ missing pieces :=
      h.resolve_left fun hne => hne (List.getLast?_eq_none_iff.1 hlast)
    rw [if_pos hname, hmissing hname]
    rfl

end Pieces

namespace Segments

theorem Finds.derives {segments : Segments} {t : Text} {pieces : Pieces}
    (h : Finds segments t pieces) : Derives segments t pieces := by
  induction segments using nestedInduction generalizing t pieces with
  | nil =>
    cases h
    exact .nil t
  | cons segment rest hinner ih =>
    cases h with | @cons _ _ t piece pieces first others =>
    refine .cons ?_ (ih others)
    cases first with
    | leaf _ hderives => exact hderives
    | @present inner _ _ _ hfinds => exact .present (hinner inner rfl hfinds)
    | @absent inner _ _ | @undone inner _ _ => exact .absent inner _

variable {segments : Segments} {t name : Text} {pieces : Pieces}

theorem Derives.not_captured (h : Derives segments t pieces) (hname : name ∉ names segments) :
    Pieces.captured name pieces = [] ∧ name ∉ Pieces.missing pieces := by
  induction segments using nestedInduction generalizing t pieces with
  | nil =>
    cases h
    exact ⟨rfl, List.not_mem_nil⟩
  | cons segment rest hinner ih =>
    cases h with | @cons _ _ t piece pieces first others =>
    rw [names, List.mem_append, not_or] at hname
    obtain ⟨hcaptured, hmissing⟩ := ih others hname.2
    have hfirst : piece.captured name = [] ∧ name ∉ piece.missing := by
      cases first with
      | literal _ | choice _ _ _ => exact ⟨rfl, List.not_mem_nil⟩
      | @capture name' _ _ _ _ _ =>
        have hne : name' ≠ name := fun heq => hname.1 (List.mem_singleton.2 heq.symm)
        exact ⟨if_neg hne, List.not_mem_nil⟩
      | @present inner _ _ hderives => exact hinner inner rfl hderives hname.1
      | absent _ _ => exact ⟨rfl, hname.1⟩
    rw [Pieces.captured, Pieces.missing, hfirst.1, hcaptured, List.mem_append, not_or]
    exact ⟨rfl, hfirst.2, hmissing⟩

theorem Derives.captured_or_missing (h : Derives segments t pieces)
    (hname : name ∈ names segments) :
    Pieces.captured name pieces ≠ [] ∨ name ∈ Pieces.missing pieces := by
  induction segments using nestedInduction generalizing t pieces with
  | nil => cases hname
  | cons segment rest hinner ih =>
    cases h with | @cons _ _ t piece pieces first others =>
    rw [Pieces.captured, Pieces.missing, List.mem_append]
    rcases List.mem_append.1 hname with hname | hname
    · have hfirst : piece.captured name ≠ [] ∨ name ∈ piece.missing := by
        cases first with
        | literal _ | choice _ _ _ => cases hname
        | @capture name' _ _ _ _ _ =>
          obtain rfl := List.mem_singleton.1 hname
          simp [Piece.captured]
        | @present inner _ _ hderives => exact hinner inner rfl hderives hname
        | absent _ _ => exact Or.inr hname
      rcases hfirst with hne | hmissing
      · exact Or.inl fun hnil => hne (List.append_eq_nil_iff.1 hnil).1
      · exact Or.inr (Or.inl hmissing)
    · rcases ih others hname with hne | hmissing
      · exact Or.inl fun hnil => hne (List.append_eq_nil_iff.1 hnil).2
      · exact Or.inr (Or.inr hmissing)

/-- With distinct names, the value of a name depends on the piece alone that accounts for it. -/
theorem Derives.value?_cons {segment : Segment} {rest : Segments} {piece : Piece}
    (first : segment.Derives (piece.text ++ t) piece) (others : Derives rest t pieces)
    (hnodup : (names (segment :: rest)).Nodup) :
    (∀ name ∈ segment.names,
      Pieces.value? (piece :: pieces) name = Pieces.value? [piece] name) ∧
      ∀ name ∈ names rest, Pieces.value? (piece :: pieces) name = Pieces.value? pieces name := by
  have hdisjoint := (List.nodup_append.1 hnodup).2.2
  have hsingle : Derives [segment] (piece.text ++ t) [piece] := .cons first (.nil t)
  refine ⟨?_, ?_⟩
  · intro name hname
    refine Pieces.value?_cons_of_first (others.not_captured ?_)
    exact fun hmem => hdisjoint name hname name hmem rfl
  · intro name hname
    apply Pieces.value?_cons_of_others
    have hnot : name ∉ names [segment] := by
      simpa [names] using fun hmem => hdisjoint name hmem name hname rfl
    simpa [Pieces.captured, Pieces.missing] using hsingle.not_captured hnot

end Segments

namespace Pattern

variable {pattern : Pattern} {text name : Text} {o : Outcome}

/-- A match gives every variable a text. -/
theorem exists_captured_of_run (h : pattern.run text = .ok o) (hname : name ∈ pattern.names) :
    ∃ t, o.captures.get? name = some t := by
  obtain ⟨pieces, hfinds, -, hcaptures⟩ := exists_finds_of_run h
  rw [hcaptures, Pieces.value?]
  cases hlast : (Pieces.captured name pieces).getLast? with
  | some t => exact ⟨t, rfl⟩
  | none =>
    have hmissing := (hfinds.derives.captured_or_missing hname).resolve_left
      fun hne => hne (List.getLast?_eq_none_iff.1 hlast)
    exact ⟨[], by simp [hmissing]⟩

theorem not_captured_of_run (h : pattern.run text = .ok o) (hname : name ∉ pattern.names) :
    o.captures.get? name = none := by
  obtain ⟨pieces, hfinds, -, hcaptures⟩ := exists_finds_of_run h
  obtain ⟨hcaptured, hmissing⟩ := hfinds.derives.not_captured hname
  simp [hcaptures, Pieces.value?, hcaptured, hmissing]

theorem captured_infix_of_run {t : Text} (h : pattern.run text = .ok o)
    (hcaptured : o.captures.get? name = some t) : t <:+: text := by
  obtain ⟨pieces, -, htext, hcaptures⟩ := exists_finds_of_run h
  rw [hcaptures, Pieces.value?] at hcaptured
  cases hlast : (Pieces.captured name pieces).getLast? with
  | some u =>
    obtain rfl : u = t := by simpa [hlast] using hcaptured
    exact htext ▸ Pieces.infix_text pieces (List.mem_of_getLast? hlast)
  | none =>
    have hnil : t = [] := by
      rw [hlast] at hcaptured
      simpa using (Option.ite_none_right_eq_some.1 hcaptured).2.symm
    exact hnil ▸ List.nil_infix

end Pattern

end DsnBinding
