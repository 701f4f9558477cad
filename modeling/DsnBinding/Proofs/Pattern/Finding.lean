import DsnBinding.Proofs.Pattern.Derivation
import DsnBinding.Proofs.Segment

/-!
Exactly what matching finds. A derivation leaves open whether a group is there; matching decides it.
A group is present if its contents can begin here and are found. It is absent if they cannot begin
here, or if they miss: a literal or a choice does not fit before any text of the group was found.
With this, a text is accepted exactly if the pieces that are found make it up.
-/
namespace DsnBinding

namespace Text.EndsAtStop

variable {stops : List Text} {t piece piece' : Text}

theorem length_le (h : EndsAtStop stops t piece) (h' : EndsAtStop stops t piece') :
    piece'.length ≤ piece.length := by
  refine Nat.le_of_not_lt fun hlt => ?_
  rcases h.behind with hall | ⟨stop, hstop, hbegins⟩
  · have hle := h'.isPrefix.length_le
    rw [hall] at hlt
    omega
  · exact h'.before piece.length hlt stop hstop hbegins

theorem unique (h : EndsAtStop stops t piece) (h' : EndsAtStop stops t piece') :
    piece = piece' := by
  have hle := h.length_le h'
  have hge := h'.length_le h
  exact (List.prefix_of_prefix_length_le h.isPrefix h'.isPrefix hge).eq_of_length (by omega)

end Text.EndsAtStop

mutual

/-- Matching finds a piece of a segment at the beginning of a text. -/
inductive Segment.Finds : Segment → Text → Piece → Prop
  | leaf {segment : Segment} {t : Text} {piece : Piece} (hleaf : ∀ inner, segment ≠ .group inner)
      (h : segment.Derives t piece) : Segment.Finds segment t piece
  | present {inner : Segments} {t : Text} {pieces : Pieces}
      (hstart : Segments.start t inner = true) (h : Segments.Finds inner t pieces) :
      Segment.Finds (.group inner) t (.present pieces)
  | absent {inner : Segments} {t : Text} (hstart : Segments.start t inner = false) :
      Segment.Finds (.group inner) t (.absent (Segments.names inner))
  | undone {inner : Segments} {t : Text} (h : Segments.Misses inner t) :
      Segment.Finds (.group inner) t (.absent (Segments.names inner))

/-- Matching finds the pieces of a sequence at the beginning of a text, each behind the one
before. -/
inductive Segments.Finds : Segments → Text → Pieces → Prop
  | nil (t : Text) : Segments.Finds [] t []
  | cons {segment : Segment} {segments : Segments} {t : Text} {piece : Piece} {pieces : Pieces}
      (first : segment.Finds (piece.text ++ t) piece) (others : Segments.Finds segments t pieces) :
      Segments.Finds (segment :: segments) (piece.text ++ t) (piece :: pieces)

/-- A literal or a choice of a sequence does not fit, and no text of the sequence was found before
it but that of captures. -/
inductive Segments.Misses : Segments → Text → Prop
  | literal {text t : Text} (segments : Segments) (h : ¬ text <+: t) :
      Segments.Misses (.literal text :: segments) t
  | choice {options : List Text} {t : Text} (segments : Segments)
      (h : ∀ option ∈ options, ¬ option <+: t) : Segments.Misses (.choice options :: segments) t
  | later {segment : Segment} {segments : Segments} {t : Text} {piece : Piece}
      (first : segment.Finds (piece.text ++ t) piece) (hanchors : piece.anchors = 0)
      (others : Segments.Misses segments t) :
      Segments.Misses (segment :: segments) (piece.text ++ t)

end

theorem Segments.Finds.of_cons {segment : Segment} {rest : Segments} {t u : Text} {pieces : Pieces}
    (h : Finds (segment :: rest) t pieces) (htext : t = Pieces.text pieces ++ u) :
    ∃ piece others, pieces = piece :: others ∧
      segment.Finds (piece.text ++ (Pieces.text others ++ u)) piece ∧
      Finds rest (Pieces.text others ++ u) others := by
  cases h with | @cons _ _ v piece others first hrest =>
  rw [Pieces.text, List.append_assoc] at htext
  obtain rfl : v = Pieces.text others ++ u := List.append_cancel_left htext
  exact ⟨piece, others, rfl, first, hrest⟩

theorem Segments.Finds.append {a b : Segments} {t : Text} {pa pb : Pieces}
    (ha : Finds a (Pieces.text pa ++ t) pa) (hb : Finds b t pb) :
    Finds (a ++ b) (Pieces.text pa ++ t) (pa ++ pb) := by
  induction a generalizing pa with
  | nil =>
    cases pa with
    | nil => exact hb
    | cons piece pa => nomatch ha
  | cons segment a ih =>
    obtain ⟨piece, pa, rfl, first, others⟩ := ha.of_cons rfl
    rw [Pieces.text, List.append_assoc]
    exact .cons first (ih others)

theorem Cursor.AdvancesBy.rest_eq {s s' : Cursor} {piece : Piece} (h : s.AdvancesBy [piece] s') :
    s.rest = piece.text ++ s'.rest := by
  simpa [Pieces.text] using h.rest

theorem Cursor.AdvancesBy.anchors_eq {s s' : Cursor} {piece : Piece} (h : s.AdvancesBy [piece] s') :
    s'.anchors = s.anchors + piece.anchors := by
  simpa [Pieces.anchors] using h.anchors

/-- A segment other than a group consumes the piece that it derives. -/
theorem Segment.exists_consume_of_derives {segment : Segment} {s : Cursor} {piece : Piece}
    (hleaf : ∀ inner, segment ≠ .group inner) (h : segment.Derives s.rest piece) :
    ∃ s', segment.consume s = .ok s' ∧ s.AdvancesBy [piece] s' := by
  cases h with
  | literal hfits =>
    refine ⟨_, ?_, Cursor.literal_advancesBy hfits⟩
    rw [consume, if_pos (List.isPrefixOf_iff_prefix.2 hfits)]
  | @capture name stops _ _ piece hends =>
    obtain rfl := hends.unique (Text.upTo_endsAtStop stops s.rest)
    exact ⟨_, rfl, s.capture_advancesBy name stops⟩
  | @choice options option _ hmem hfits longest =>
    have hfind := find?_longestFirst_of_longest hmem hfits longest
    by_cases hne : option = []
    · subst hne
      exact ⟨s, by rw [consume, hfind], s.emptyOption_advancesBy⟩
    · refine ⟨_, ?_, Cursor.option_advancesBy hfits hne⟩
      cases option with
      | nil => exact absurd rfl hne
      | cons c option => rw [consume, hfind]
  | @present inner | absent inner => exact absurd rfl (hleaf inner)

/-- Matching does what the relations say: it consumes what is found, and where a sequence misses it
halts without an anchor. -/
structure Segments.Obeys (segments : Segments) : Prop where
  finds : ∀ (s : Cursor) (pieces : Pieces), Finds segments s.rest pieces →
    ∃ s', Segments.consume segments s = .ok s' ∧ s.AdvancesBy pieces s'
  misses : ∀ s : Cursor, Misses segments s.rest → ∃ halt cause,
    Segments.consume segments s = .error halt ∧ halt.obstacle = .mismatch cause ∧
      halt.cursor.anchors = s.anchors

theorem Segment.exists_consume_of_finds {segment : Segment} {s : Cursor} {piece : Piece}
    (hinner : ∀ inner, segment = .group inner → Segments.Obeys inner)
    (h : segment.Finds s.rest piece) :
    ∃ s', segment.consume s = .ok s' ∧ s.AdvancesBy [piece] s' := by
  cases h with
  | leaf hleaf hderives => exact exists_consume_of_derives hleaf hderives
  | @present inner _ pieces hstart hfinds =>
    obtain ⟨s', hconsume, hadvances⟩ := (hinner inner rfl).finds s pieces hfinds
    exact ⟨s', by rw [consume, if_pos hstart, hconsume], hadvances.present⟩
  | @absent inner _ hstart =>
    refine ⟨_, ?_, s.leaveOut_advancesBy (Segments.names inner)⟩
    rw [consume, if_neg (by simp [hstart])]
  | @undone inner _ hmisses =>
    refine ⟨_, ?_, s.leaveOut_advancesBy (Segments.names inner)⟩
    obtain ⟨halt, cause, hconsume, hcause, hanchors⟩ := (hinner inner rfl).misses s hmisses
    have hleave : halt.leaveGroup s (Segments.names inner) =
        .ok (s.leaveOut (Segments.names inner)) := by
      simp only [Halt.leaveGroup, hcause, if_pos hanchors]
    rw [consume, hconsume]
    split
    · exact hleave
    · rfl

theorem Segments.obeys (segments : Segments) : Segments.Obeys segments := by
  induction segments using nestedInduction with
  | nil =>
    refine ⟨?_, ?_⟩
    · intro s pieces h
      cases h
      exact ⟨s, rfl, s.advancesBy_nil⟩
    · intro s h
      cases h
  | cons segment rest hinner ih =>
    have hfirst : ∀ (s : Cursor) (piece : Piece), segment.Finds s.rest piece →
        ∃ s', segment.consume s = .ok s' ∧ s.AdvancesBy [piece] s' :=
      fun _ _ => Segment.exists_consume_of_finds hinner
    refine ⟨?_, ?_⟩
    · intro s pieces h
      generalize hrest : s.rest = text at h
      cases h with | @cons _ _ t piece pieces first others =>
      obtain ⟨s', hconsume, hadvances⟩ := hfirst s piece (hrest ▸ first)
      obtain rfl : t = s'.rest := List.append_cancel_left (hrest.symm.trans hadvances.rest_eq)
      obtain ⟨s'', hconsume', hadvances'⟩ := ih.finds s' pieces others
      refine ⟨s'', ?_, hadvances.trans hadvances'⟩
      rw [consume, hconsume]
      exact hconsume'
    · intro s h
      generalize hrest : s.rest = text at h
      cases h with
      | @literal text _ _ hfits =>
        refine ⟨⟨s, .mismatch (.literal s.position text)⟩, _, ?_, rfl, rfl⟩
        rw [consume, Segment.consume, if_neg (by simpa [hrest] using hfits)]
      | @choice options _ _ hfits =>
        have hnone : (longestFirst options).find? (·.isPrefixOf s.rest) = none := by
          apply List.find?_eq_none.2
          intro option hoption hbegins
          rw [hrest] at hbegins
          exact hfits option ((longestFirst_perm options).mem_iff.1 hoption)
            (List.isPrefixOf_iff_prefix.1 hbegins)
        refine ⟨⟨s, .mismatch (.choice s.position options)⟩, _, ?_, rfl, rfl⟩
        rw [consume, Segment.consume, hnone]
      | @later _ _ t piece first hanchors others =>
        obtain ⟨s', hconsume, hadvances⟩ := hfirst s piece (hrest ▸ first)
        obtain rfl : t = s'.rest := List.append_cancel_left (hrest.symm.trans hadvances.rest_eq)
        obtain ⟨halt, cause, hconsume', hcause, hhalt⟩ := ih.misses s' others
        refine ⟨halt, cause, ?_, hcause, ?_⟩
        · rw [consume, hconsume]
          exact hconsume'
        · rw [hhalt, hadvances.anchors_eq, hanchors, Nat.add_zero]

/-- Matching does nothing else than the relations say: what it consumes is found, and where it halts
without an anchor the sequence misses. -/
structure Segments.IsCovered (segments : Segments) : Prop where
  finds : ∀ s s' : Cursor, Segments.consume segments s = .ok s' →
    ∃ pieces, Finds segments s.rest pieces ∧ s.AdvancesBy pieces s'
  misses : ∀ (s : Cursor) (halt : Halt) (cause : Mismatch),
    Segments.consume segments s = .error halt → halt.obstacle = .mismatch cause →
    s.anchors ≤ halt.cursor.anchors ∧ (halt.cursor.anchors = s.anchors → Misses segments s.rest)

/-- A literal or a choice does not fit a text, and how this is reported. -/
inductive Segment.Misfits (offset : Nat) (t : Text) : Segment → Mismatch → Prop
  | literal {text : Text} (h : ¬ text <+: t) :
      Segment.Misfits offset t (.literal text) (.literal offset text)
  | choice {options : List Text} (h : ∀ option ∈ options, ¬ option <+: t) :
      Segment.Misfits offset t (.choice options) (.choice offset options)

/-- A group halts where its contents do, unless they halt for a mismatch before an anchor. -/
theorem Halt.leaveGroup_eq_error {halt halt' : Halt} {entry : Cursor} {names : List Text}
    (h : halt.leaveGroup entry names = .error halt') :
    halt.obstacle = .bareSegment ∧ halt' = halt ∨
      ∃ cause, halt.obstacle = .mismatch cause ∧ halt.cursor.anchors ≠ entry.anchors ∧
        halt' = ⟨halt.cursor, .mismatch (.partialGroup halt.cursor.position cause)⟩ := by
  unfold leaveGroup at h
  split at h
  · rename_i hbare
    exact Or.inl ⟨hbare, (Except.error.inj h).symm⟩
  · rename_i cause hcause
    split at h
    · cases h
    · rename_i hne
      exact Or.inr ⟨cause, hcause, hne, (Except.error.inj h).symm⟩

theorem Segment.consume_eq_error {segment : Segment} {s : Cursor} {halt : Halt}
    (h : segment.consume s = .error halt) :
    (∃ cause, segment.Misfits s.position s.rest cause ∧ halt = ⟨s, .mismatch cause⟩) ∨
      (∃ inner halt', segment = .group inner ∧ Segments.start s.rest inner = true ∧
        Segments.consume inner s = .error halt' ∧
        halt'.leaveGroup s (Segments.names inner) = .error halt) ∨
      segment = .bare ∧ halt = ⟨s, .bareSegment⟩ := by
  cases segment with
  | literal text =>
    unfold consume at h
    split at h
    · cases h
    · rename_i hfits
      have hmisfits : ¬ text <+: s.rest :=
        fun hbegins => hfits (List.isPrefixOf_iff_prefix.2 hbegins)
      exact Or.inl ⟨_, .literal hmisfits, (Except.error.inj h).symm⟩
  | choice options =>
    unfold consume at h
    split at h
    · cases h
    · cases h
    · rename_i hnone
      have hmisfits : ∀ option ∈ options, ¬ option <+: s.rest := by
        intro option hoption hbegins
        exact List.find?_eq_none.1 hnone option ((longestFirst_perm options).mem_iff.2 hoption)
          (List.isPrefixOf_iff_prefix.2 hbegins)
      exact Or.inl ⟨_, .choice hmisfits, (Except.error.inj h).symm⟩
  | group inner =>
    unfold consume at h
    split at h
    · rename_i hstart
      split at h
      · cases h
      · rename_i halt' hconsume
        exact Or.inr (Or.inl ⟨inner, halt', rfl, hstart, hconsume, h⟩)
    · cases h
  | capture _ _ _ => cases h
  | bare => exact Or.inr (Or.inr ⟨rfl, (Except.error.inj h).symm⟩)

theorem Segment.exists_finds {segment : Segment} {s s' : Cursor}
    (hinner : ∀ inner, segment = .group inner → Segments.IsCovered inner)
    (h : segment.consume s = .ok s') :
    ∃ piece, segment.Finds s.rest piece ∧ s.AdvancesBy [piece] s' := by
  cases segment with
  | literal _ | capture _ _ _ | choice _ | bare =>
    obtain ⟨piece, hderives, hadvances⟩ := exists_derives _ h
    exact ⟨piece, .leaf (fun _ heq => nomatch heq) hderives, hadvances⟩
  | group inner =>
    have hleft := s.leaveOut_advancesBy (Segments.names inner)
    unfold consume at h
    split at h
    · rename_i hstart
      split at h
      · rename_i s'' hconsume
        obtain rfl := Except.ok.inj h
        obtain ⟨pieces, hfinds, hadvances⟩ := (hinner inner rfl).finds s s'' hconsume
        exact ⟨_, .present hstart hfinds, hadvances.present⟩
      · rename_i halt hconsume
        obtain ⟨rfl, cause, hcause, hanchors⟩ := Halt.leaveGroup_eq_ok h
        have hcovered := (hinner inner rfl).misses s halt cause hconsume hcause
        exact ⟨_, .undone (hcovered.2 hanchors), hleft⟩
    · rename_i hstart
      obtain rfl := Except.ok.inj h
      exact ⟨_, .absent (by simpa using hstart), hleft⟩

theorem Segment.misses_of_consume {segment : Segment} {s : Cursor} {halt : Halt} {cause : Mismatch}
    (hinner : ∀ inner, segment = .group inner → Segments.IsCovered inner) (rest : Segments)
    (h : segment.consume s = .error halt) (hcause : halt.obstacle = .mismatch cause) :
    s.anchors ≤ halt.cursor.anchors ∧
      (halt.cursor.anchors = s.anchors → Segments.Misses (segment :: rest) s.rest) := by
  rcases consume_eq_error h with ⟨cause, hmisfits, rfl⟩ | ⟨inner, halt', rfl, -, hconsume, hleave⟩ |
    ⟨-, rfl⟩
  · refine ⟨Nat.le_refl _, fun _ => ?_⟩
    cases hmisfits with
    | literal hfits => exact .literal rest hfits
    | choice hfits => exact .choice rest hfits
  · rcases Halt.leaveGroup_eq_error hleave with ⟨hbare, rfl⟩ | ⟨cause', hcause', hne, rfl⟩
    · rw [hbare] at hcause
      cases hcause
    · obtain ⟨hle, -⟩ := (hinner inner rfl).misses s halt' cause' hconsume hcause'
      exact ⟨hle, fun heq => absurd heq hne⟩
  · cases hcause

theorem Segments.isCovered (segments : Segments) : Segments.IsCovered segments := by
  induction segments using nestedInduction with
  | nil =>
    refine ⟨?_, ?_⟩
    · intro s s' h
      obtain rfl := Except.ok.inj h
      exact ⟨[], .nil s.rest, s.advancesBy_nil⟩
    · intro s halt cause h
      cases h
  | cons segment rest hinner ih =>
    refine ⟨?_, ?_⟩
    · intro s s'' h
      unfold consume at h
      split at h
      · rename_i s' hsegment
        obtain ⟨piece, hpiece, hadvances⟩ := Segment.exists_finds hinner hsegment
        obtain ⟨pieces, hpieces, hadvances'⟩ := ih.finds s' s'' h
        refine ⟨piece :: pieces, ?_, hadvances.trans hadvances'⟩
        rw [hadvances.rest_eq] at hpiece ⊢
        exact .cons hpiece hpieces
      · cases h
    · intro s halt cause h hcause
      unfold consume at h
      split at h
      · rename_i s' hsegment
        obtain ⟨piece, hpiece, hadvances⟩ := Segment.exists_finds hinner hsegment
        obtain ⟨hle, hmisses⟩ := ih.misses s' halt cause h hcause
        have hanchors := hadvances.anchors_eq
        refine ⟨by omega, ?_⟩
        intro heq
        rw [hadvances.rest_eq] at hpiece ⊢
        exact .later hpiece (by omega) (hmisses (by omega))
      · rename_i halt' hsegment
        obtain rfl := Except.error.inj h
        exact Segment.misses_of_consume hinner rest hsegment hcause

namespace Pattern

/-- An accepted text is made up of pieces that are found in it, which determine the captures. -/
theorem exists_finds_of_run {pattern : Pattern} {text : Text} {o : Outcome}
    (h : pattern.run text = .ok o) :
    ∃ pieces, Segments.Finds pattern.segments text pieces ∧ Pieces.text pieces = text ∧
      ∀ name, o.captures.get? name = Pieces.value? pieces name := by
  obtain ⟨s, hall, hrest, hcaptures, -⟩ := consume_of_run h
  obtain ⟨pieces, hfinds, hadvances⟩ := (Segments.isCovered pattern.segments).finds _ _ hall
  refine ⟨pieces, hfinds, ?_, ?_⟩
  · simpa [hrest, Cursor.start] using hadvances.rest.symm
  · intro name
    rw [hcaptures]
    simpa [Cursor.start, Pieces.value?] using hadvances.captures name

theorem length_of_run {pattern : Pattern} {text : Text} {o : Outcome}
    (h : pattern.run text = .ok o) : o.length = text.length := by
  obtain ⟨s, hall, hrest, -, hlength⟩ := consume_of_run h
  obtain ⟨pieces, -, hadvances⟩ := (Segments.isCovered pattern.segments).finds _ _ hall
  have htext : text = Pieces.text pieces := by
    simpa [hrest, Cursor.start] using hadvances.rest
  rw [hlength, htext]
  simpa [Cursor.start] using hadvances.position

/-- A text that is made up of pieces that are found in it is accepted. -/
theorem exists_run_of_finds {pattern : Pattern} {text : Text} {pieces : Pieces}
    (h : Segments.Finds pattern.segments text pieces) (htext : Pieces.text pieces = text) :
    ∃ o, pattern.run text = .ok o ∧ ∀ name, o.captures.get? name = Pieces.value? pieces name := by
  obtain ⟨s, hall, hadvances⟩ :=
    (Segments.obeys pattern.segments).finds (Cursor.start text) pieces h
  have hrest : s.rest = [] := by
    have happend : text = Pieces.text pieces ++ s.rest := hadvances.rest
    rw [htext] at happend
    simpa using happend
  obtain ⟨o, hrun, hcaptures, -⟩ := exists_run_of_consume hall hrest
  refine ⟨o, hrun, ?_⟩
  intro name
  rw [hcaptures]
  simpa [Cursor.start, Pieces.value?] using hadvances.captures name

end Pattern

end DsnBinding
