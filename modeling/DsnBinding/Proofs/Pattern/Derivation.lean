import DsnBinding.Pattern.Matching
import DsnBinding.Proofs.OrderedMap

/-!
Matching as derivation. A derivation of a sequence tells what each of its segments consumed: a
literal its own text, a choice the longest of its options that fits, a capture the text up to its
first stop, and a group the pieces of its contents or nothing. Matching may enter groups and undo
them again, but an accepted text is always the text of a derivation, from which captures, length and
anchors can be read off.
-/
namespace DsnBinding

/-- A piece of a text that ends where one of the stops begins for the first time, or with the
text. -/
structure Text.EndsAtStop (stops : List Text) (t piece : Text) : Prop where
  isPrefix : piece <+: t
  before : ∀ i < piece.length, ∀ stop ∈ stops, ¬ stop <+: t.drop i
  behind : piece = t ∨ ∃ stop ∈ stops, stop <+: t.drop piece.length

theorem Text.upTo_endsAtStop (stops : List Text) (t : Text) :
    Text.EndsAtStop stops t (Text.upTo stops t) := by
  induction t with
  | nil => exact ⟨List.prefix_refl [], by simp [Text.upTo], Or.inl rfl⟩
  | cons c t ih =>
    unfold Text.upTo
    split
    · rename_i h
      obtain ⟨stop, hstop, hfits⟩ := List.any_eq_true.1 h
      exact ⟨List.nil_prefix, by simp, Or.inr ⟨stop, hstop, List.isPrefixOf_iff_prefix.1 hfits⟩⟩
    · rename_i h
      refine ⟨List.cons_prefix_cons.2 ⟨rfl, ih.isPrefix⟩, ?_, ?_⟩
      · intro i hi stop hstop hfits
        cases i with
        | zero =>
          exact h (List.any_eq_true.2 ⟨stop, hstop, List.isPrefixOf_iff_prefix.2 hfits⟩)
        | succ i =>
          have hi' : i < (Text.upTo stops t).length := by
            simp only [List.length_cons] at hi
            omega
          exact ih.before i hi' stop hstop hfits
      · rcases ih.behind with hall | hstop
        · exact Or.inl (congrArg (List.cons c) hall)
        · exact Or.inr hstop

/-- The option that is found first among the longest is the longest that fits. -/
theorem find?_longestFirst_eq_some {options : List Text} {option : Text} {fits : Text → Bool}
    (h : (longestFirst options).find? fits = some option) :
    option ∈ options ∧ fits option = true ∧
      ∀ other ∈ options, fits other = true → other.length ≤ option.length := by
  obtain ⟨hfits, before, behind, hsplit, hbefore⟩ := List.find?_eq_some_iff_append.1 h
  have hmem : ∀ other, other ∈ options ↔ other ∈ before ++ option :: behind := by
    intro other
    rw [← hsplit]
    exact (longestFirst_perm options).mem_iff.symm
  refine ⟨(hmem option).2 (by simp), hfits, ?_⟩
  intro other hother hfitsOther
  have hsorted := longestFirst_pairwise options
  rw [hsplit, List.pairwise_append] at hsorted
  rcases List.mem_append.1 ((hmem other).1 hother) with hb | hb
  · have hno := hbefore other hb
    simp [hfitsOther] at hno
  · rcases List.mem_cons.1 hb with rfl | hb
    · exact Nat.le_refl _
    · exact (List.pairwise_cons.1 hsorted.2.1).1 other hb

theorem find?_longestFirst_of_longest {options : List Text} {option t : Text}
    (hmem : option ∈ options) (hfits : option <+: t)
    (longest : ∀ other ∈ options, other <+: t → other.length ≤ option.length) :
    (longestFirst options).find? (·.isPrefixOf t) = some option := by
  cases hfound : (longestFirst options).find? (·.isPrefixOf t) with
  | none =>
    have hno := List.find?_eq_none.1 hfound option ((longestFirst_perm options).mem_iff.2 hmem)
    exact absurd (List.isPrefixOf_iff_prefix.2 hfits) hno
  | some other =>
    obtain ⟨hother, hotherFits, hlongest⟩ := find?_longestFirst_eq_some hfound
    have hotherFits := List.isPrefixOf_iff_prefix.1 hotherFits
    have hle : option.length ≤ other.length :=
      hlongest option hmem (List.isPrefixOf_iff_prefix.2 hfits)
    have hge : other.length ≤ option.length := longest other hother hotherFits
    have heq : option = other :=
      (List.prefix_of_prefix_length_le hfits hotherFits hle).eq_of_length (by omega)
    rw [heq]

/-- What a segment consumed. -/
inductive Piece where
  | literal (text : Text)
  | capture (name text : Text)
  | option (text : Text)
  | present (pieces : List Piece)
  /-- A group that consumed nothing, with the names of its captures. -/
  | absent (names : List Text)

abbrev Pieces := List Piece

mutual

def Piece.text : Piece → Text
  | .literal text | .capture _ text | .option text => text
  | .present pieces => Pieces.text pieces
  | .absent _ => []

def Pieces.text : Pieces → Text
  | [] => []
  | piece :: rest => piece.text ++ Pieces.text rest

end

mutual

def Piece.anchors : Piece → Nat
  | .literal _ => 1
  | .option text => if text = [] then 0 else 1
  | .present pieces => Pieces.anchors pieces
  | .capture .. | .absent _ => 0

def Pieces.anchors : Pieces → Nat
  | [] => 0
  | piece :: rest => piece.anchors + Pieces.anchors rest

end

mutual

def Piece.captured (name : Text) : Piece → List Text
  | .capture name' text => if name' = name then [text] else []
  | .present pieces => Pieces.captured name pieces
  | .literal _ | .option _ | .absent _ => []

def Pieces.captured (name : Text) : Pieces → List Text
  | [] => []
  | piece :: rest => piece.captured name ++ Pieces.captured name rest

end

mutual

/-- The names of the captures in absent groups. -/
def Piece.missing : Piece → List Text
  | .absent names => names
  | .present pieces => Pieces.missing pieces
  | .literal _ | .capture .. | .option _ => []

def Pieces.missing : Pieces → List Text
  | [] => []
  | piece :: rest => piece.missing ++ Pieces.missing rest

end

namespace Pieces

theorem text_append (a b : Pieces) : text (a ++ b) = text a ++ text b := by
  induction a with
  | nil => rfl
  | cons piece a ih => simp [text, ih]

theorem anchors_append (a b : Pieces) : anchors (a ++ b) = anchors a + anchors b := by
  induction a with
  | nil => simp [anchors]
  | cons piece a ih => simp [anchors, ih, Nat.add_assoc]

theorem captured_append (name : Text) (a b : Pieces) :
    captured name (a ++ b) = captured name a ++ captured name b := by
  induction a with
  | nil => rfl
  | cons piece a ih => simp [captured, ih]

theorem missing_append (a b : Pieces) : missing (a ++ b) = missing a ++ missing b := by
  induction a with
  | nil => rfl
  | cons piece a ih => simp [missing, ih]

/-- The value of a name: its last captured text, or the empty text if all groups that hold the name
are absent. -/
def value? (pieces : Pieces) (name : Text) : Option Text :=
  (captured name pieces).getLast?.or (if name ∈ missing pieces then some [] else none)

end Pieces

mutual

/-- A segment consumes a piece at the beginning of a text. -/
inductive Segment.Derives : Segment → Text → Piece → Prop
  | literal {text t : Text} (h : text <+: t) : Segment.Derives (.literal text) t (.literal text)
  | capture {name : Text} {stops : List Text} {offset : Nat} {t piece : Text}
      (h : Text.EndsAtStop stops t piece) :
      Segment.Derives (.capture name stops offset) t (.capture name piece)
  | choice {options : List Text} {option t : Text} (hmem : option ∈ options) (h : option <+: t)
      (longest : ∀ other ∈ options, other <+: t → other.length ≤ option.length) :
      Segment.Derives (.choice options) t (.option option)
  | present {inner : Segments} {t : Text} {pieces : Pieces} (h : Segments.Derives inner t pieces) :
      Segment.Derives (.group inner) t (.present pieces)
  | absent (inner : Segments) (t : Text) :
      Segment.Derives (.group inner) t (.absent (Segments.names inner))

/-- A sequence consumes pieces at the beginning of a text, each behind the one before. -/
inductive Segments.Derives : Segments → Text → Pieces → Prop
  | nil (t : Text) : Segments.Derives [] t []
  | cons {segment : Segment} {segments : Segments} {t : Text} {piece : Piece} {pieces : Pieces}
      (first : segment.Derives (piece.text ++ t) piece)
      (others : Segments.Derives segments t pieces) :
      Segments.Derives (segment :: segments) (piece.text ++ t) (piece :: pieces)

end

namespace Cursor

/-- A cursor has moved on over the given pieces and has captured what they capture. -/
structure AdvancesBy (s : Cursor) (pieces : Pieces) (s' : Cursor) : Prop where
  rest : s.rest = Pieces.text pieces ++ s'.rest
  position : s'.position = s.position + (Pieces.text pieces).length
  anchors : s'.anchors = s.anchors + Pieces.anchors pieces
  captures : ∀ name, s'.captures.get? name =
    ((Pieces.captured name pieces).getLast?.or (s.captures.get? name)).or
      (if name ∈ Pieces.missing pieces then some [] else none)

theorem advancesBy_nil (s : Cursor) : s.AdvancesBy [] s :=
  ⟨rfl, rfl, rfl, by simp [Pieces.captured, Pieces.missing]⟩

/-- What is captured later wins, and a name that was captured once is not missing any more. -/
theorem AdvancesBy.trans {s s' s'' : Cursor} {a b : Pieces}
    (h : s.AdvancesBy a s') (h' : s'.AdvancesBy b s'') : s.AdvancesBy (a ++ b) s'' where
  rest := by rw [h.rest, h'.rest, Pieces.text_append, List.append_assoc]
  position := by
    rw [h'.position, h.position, Pieces.text_append, List.length_append]
    omega
  anchors := by
    rw [h'.anchors, h.anchors, Pieces.anchors_append]
    omega
  captures name := by
    rw [h'.captures, h.captures, Pieces.captured_append, Pieces.missing_append,
      List.getLast?_append]
    cases (Pieces.captured name b).getLast? <;> cases (Pieces.captured name a).getLast? <;>
      cases s.captures.get? name <;> by_cases ha : name ∈ Pieces.missing a <;>
        simp [ha]

/-- The pieces of a present group count as the piece of the group. -/
theorem AdvancesBy.present {s s' : Cursor} {pieces : Pieces} (h : s.AdvancesBy pieces s') :
    s.AdvancesBy [.present pieces] s' := by
  obtain ⟨hrest, hposition, hanchors, hcaptures⟩ := h
  refine ⟨?_, ?_, ?_, ?_⟩ <;>
    simpa [Pieces.text, Piece.text, Pieces.anchors, Piece.anchors, Pieces.captured, Piece.captured,
      Pieces.missing, Piece.missing]

theorem leaveOut_advancesBy (s : Cursor) (names : List Text) :
    s.AdvancesBy [.absent names] (s.leaveOut names) where
  rest := by simp [Pieces.text, Piece.text, leaveOut]
  position := by simp [Pieces.text, Piece.text, leaveOut]
  anchors := by simp [Pieces.anchors, Piece.anchors, leaveOut]
  captures name := by
    by_cases h : name ∈ names <;>
      simp [Pieces.captured, Piece.captured, Pieces.missing, Piece.missing, leaveOut,
        OrderedMap.get?_foldl_insertIfNew, h]

theorem rest_eq_append_consume {s : Cursor} {text : Text} (h : text <+: s.rest) :
    s.rest = text ++ (s.consume text.length).rest := by
  obtain ⟨t, ht⟩ := h
  simp [consume, ← ht]

theorem literal_advancesBy {s : Cursor} {text : Text} (h : text <+: s.rest) :
    s.AdvancesBy [.literal text] (s.consume text.length).anchor where
  rest := by simpa [Pieces.text, Piece.text, anchor] using rest_eq_append_consume h
  position := by simp [Pieces.text, Piece.text, consume, anchor]
  anchors := by simp [Pieces.anchors, Piece.anchors, consume, anchor]
  captures name := by
    simp [Pieces.captured, Piece.captured, Pieces.missing, Piece.missing, consume, anchor]

theorem option_advancesBy {s : Cursor} {text : Text} (h : text <+: s.rest) (hne : text ≠ []) :
    s.AdvancesBy [.option text] (s.consume text.length).anchor where
  rest := by simpa [Pieces.text, Piece.text, anchor] using rest_eq_append_consume h
  position := by simp [Pieces.text, Piece.text, consume, anchor]
  anchors := by simp [Pieces.anchors, Piece.anchors, consume, anchor, hne]
  captures name := by
    simp [Pieces.captured, Piece.captured, Pieces.missing, Piece.missing, consume, anchor]

theorem emptyOption_advancesBy (s : Cursor) : s.AdvancesBy [.option []] s := by
  refine ⟨?_, ?_, ?_, ?_⟩ <;>
    simp [Pieces.text, Piece.text, Pieces.anchors, Piece.anchors, Pieces.captured, Piece.captured,
      Pieces.missing, Piece.missing]

theorem capture_advancesBy (s : Cursor) (name : Text) (stops : List Text) :
    s.AdvancesBy [.capture name (Text.upTo stops s.rest)] (s.capture name stops) where
  rest := by
    simpa [Pieces.text, Piece.text, capture] using
      rest_eq_append_consume (Text.upTo_isPrefix stops s.rest)
  position := by simp [Pieces.text, Piece.text, consume, capture]
  anchors := by simp [Pieces.anchors, Piece.anchors, consume, capture]
  captures name' := by
    by_cases h : name = name' <;>
      simp [Pieces.captured, Piece.captured, Pieces.missing, Piece.missing, capture, consume,
        OrderedMap.get?_insert, h]

end Cursor

/-- A halt that undoes the group is a mismatch without an anchor, and the group then is absent. -/
theorem Halt.leaveGroup_eq_ok {halt : Halt} {entry s : Cursor} {names : List Text}
    (h : halt.leaveGroup entry names = .ok s) :
    s = entry.leaveOut names ∧
      ∃ cause, halt.obstacle = .mismatch cause ∧ halt.cursor.anchors = entry.anchors := by
  unfold Halt.leaveGroup at h
  split at h
  · cases h
  · rename_i cause hcause
    split at h
    · rename_i hanchors
      exact ⟨(Except.ok.inj h).symm, cause, hcause, hanchors⟩
    · cases h

mutual

theorem Segment.exists_derives : (segment : Segment) → ∀ {s s' : Cursor},
    segment.consume s = .ok s' →
      ∃ piece, segment.Derives s.rest piece ∧ s.AdvancesBy [piece] s'
  | .literal text, s, s', h => by
    unfold Segment.consume at h
    split at h
    · rename_i hfits
      have hfits := List.isPrefixOf_iff_prefix.1 hfits
      obtain rfl := Except.ok.inj h
      exact ⟨_, .literal hfits, Cursor.literal_advancesBy hfits⟩
    · cases h
  | .capture name stops offset, s, s', h => by
    obtain rfl := Except.ok.inj h
    exact ⟨_, .capture (Text.upTo_endsAtStop stops s.rest), Cursor.capture_advancesBy s name stops⟩
  | .choice options, s, s', h => by
    have found : ∀ option, (longestFirst options).find? (·.isPrefixOf s.rest) = some option →
        Segment.Derives (.choice options) s.rest (.option option) := by
      intro option hoption
      obtain ⟨hmem, hfits, hlongest⟩ := find?_longestFirst_eq_some hoption
      apply Segment.Derives.choice hmem (List.isPrefixOf_iff_prefix.1 hfits)
      intro other hother hfitsOther
      exact hlongest other hother (List.isPrefixOf_iff_prefix.2 hfitsOther)
    unfold Segment.consume at h
    split at h
    · rename_i hoption
      obtain rfl := Except.ok.inj h
      exact ⟨_, found [] hoption, Cursor.emptyOption_advancesBy s⟩
    · rename_i option hne hoption
      have hfits := List.isPrefixOf_iff_prefix.1 (find?_longestFirst_eq_some hoption).2.1
      obtain rfl := Except.ok.inj h
      exact ⟨_, found option hoption, Cursor.option_advancesBy hfits hne⟩
    · cases h
  | .group inner, s, s', h => by
    have absent := Cursor.leaveOut_advancesBy s (Segments.names inner)
    unfold Segment.consume at h
    split at h
    · split at h
      · rename_i s'' hinner
        obtain rfl := Except.ok.inj h
        obtain ⟨pieces, hderives, hadvances⟩ := Segments.exists_derives inner hinner
        exact ⟨_, .present hderives, hadvances.present⟩
      · obtain ⟨rfl, -⟩ := Halt.leaveGroup_eq_ok h
        exact ⟨_, .absent inner s.rest, absent⟩
    · obtain rfl := Except.ok.inj h
      exact ⟨_, .absent inner s.rest, absent⟩
  | .bare, s, s', h => by cases h

theorem Segments.exists_derives : (segments : Segments) → ∀ {s s' : Cursor},
    Segments.consume segments s = .ok s' →
      ∃ pieces, Segments.Derives segments s.rest pieces ∧ s.AdvancesBy pieces s'
  | [], s, s', h => by
    obtain rfl := Except.ok.inj h
    exact ⟨[], .nil s.rest, s.advancesBy_nil⟩
  | segment :: rest, s, s', h => by
    unfold Segments.consume at h
    split at h
    · rename_i s'' hsegment
      obtain ⟨piece, hpiece, hfirst⟩ := Segment.exists_derives segment hsegment
      obtain ⟨pieces, hpieces, hothers⟩ := Segments.exists_derives rest h
      refine ⟨piece :: pieces, ?_, hfirst.trans hothers⟩
      have hrest : s.rest = piece.text ++ s''.rest := by
        simpa [Pieces.text] using hfirst.rest
      rw [hrest] at hpiece ⊢
      exact .cons hpiece hpieces
    · cases h

end

namespace Pattern

theorem lead_append_body (pattern : Pattern) : pattern.lead ++ pattern.body = pattern.segments :=
  List.takeWhile_append_dropWhile

/-- A match consumes the lead and then the body, and nothing is left behind them. -/
theorem run_eq_ok {pattern : Pattern} {text : Text} {o : Outcome} (h : pattern.run text = .ok o) :
    ∃ lead s, Segments.consume pattern.lead (Cursor.start text) = .ok lead ∧
      Segments.consume pattern.body lead = .ok s ∧ s.rest = [] ∧
      o = ⟨s.captures, schemeOf (text.take lead.position), s.position, s.anchors⟩ := by
  unfold run at h
  split at h
  · cases h
  · rename_i lead hlead
    split at h
    · cases h
    · rename_i s hbody
      split at h
      · rename_i hrest
        exact ⟨lead, s, hlead, hbody, List.isEmpty_iff.1 hrest, (Except.ok.inj h).symm⟩
      · cases h

theorem consume_of_run {pattern : Pattern} {text : Text} {o : Outcome}
    (h : pattern.run text = .ok o) :
    ∃ s, Segments.consume pattern.segments (Cursor.start text) = .ok s ∧ s.rest = [] ∧
      o.captures = s.captures ∧ o.length = s.position := by
  obtain ⟨lead, s, hlead, hbody, hrest, rfl⟩ := run_eq_ok h
  refine ⟨s, ?_, hrest, rfl, rfl⟩
  rw [← lead_append_body, Segments.consume_append, hlead]
  exact hbody

theorem consume_of_run_eq_error {pattern : Pattern} {text : Text} {halt : Halt}
    (h : pattern.run text = .error halt) :
    Segments.consume pattern.segments (Cursor.start text) = .error halt ∨
      ∃ s, Segments.consume pattern.segments (Cursor.start text) = .ok s ∧ s.rest ≠ [] ∧
        halt = ⟨s, .mismatch (.trailing s.position)⟩ := by
  rw [← lead_append_body, Segments.consume_append]
  unfold run at h
  split at h
  · rename_i halt' hlead
    obtain rfl := Except.error.inj h
    exact Or.inl (by rw [hlead])
  · rename_i lead hlead
    rw [hlead]
    split at h
    · rename_i halt' hbody
      obtain rfl := Except.error.inj h
      exact Or.inl hbody
    · rename_i s hbody
      split at h
      · cases h
      · rename_i hrest
        have hne : s.rest ≠ [] := fun hnil => hrest (by rw [hnil]; rfl)
        exact Or.inr ⟨s, hbody, hne, (Except.error.inj h).symm⟩

theorem exists_run_of_consume {pattern : Pattern} {text : Text} {s : Cursor}
    (h : Segments.consume pattern.segments (Cursor.start text) = .ok s) (hrest : s.rest = []) :
    ∃ o, pattern.run text = .ok o ∧ o.captures = s.captures ∧ o.length = s.position := by
  rw [← lead_append_body, Segments.consume_append] at h
  cases hlead : Segments.consume pattern.lead (Cursor.start text) with
  | error halt => simp [hlead] at h
  | ok lead =>
    have hbody : Segments.consume pattern.body lead = .ok s := by simpa [hlead] using h
    refine ⟨⟨s.captures, schemeOf (text.take lead.position), s.position, s.anchors⟩, ?_, rfl, rfl⟩
    simp [run, hlead, hbody, hrest]

/-- An accepted text is the text of a derivation, which determines the captures, the length and the
number of anchors. -/
theorem run_derivation {pattern : Pattern} {text : Text} {o : Outcome}
    (h : pattern.run text = .ok o) :
    ∃ pieces, Segments.Derives pattern.segments text pieces ∧ Pieces.text pieces = text ∧
      (∀ name, o.captures.get? name = Pieces.value? pieces name) ∧
      o.length = text.length ∧ o.anchors = Pieces.anchors pieces := by
  obtain ⟨lead, s, hlead, hbody, hrest, rfl⟩ := run_eq_ok h
  have hall : Segments.consume pattern.segments (Cursor.start text) = .ok s := by
    rw [← lead_append_body, Segments.consume_append, hlead]
    exact hbody
  obtain ⟨pieces, hderives, hadvances⟩ := Segments.exists_derives pattern.segments hall
  have htext : Pieces.text pieces = text := by
    simpa [hrest, Cursor.start] using hadvances.rest.symm
  refine ⟨pieces, hderives, htext, ?_, ?_, ?_⟩
  · intro name
    simpa [Cursor.start, Pieces.value?] using hadvances.captures name
  · simpa [Cursor.start, htext] using hadvances.position
  · simpa [Cursor.start] using hadvances.anchors

/-- The first group is entered and undone again, and its name is captured behind it. -/
theorem run_derivation_undone_group :
    let segments : Segments :=
      [.group [.capture ['A'] [[':']] 1, .literal [':']], .choice [['x'], []],
        .capture ['A'] [['/']] 5, .group [.literal ['/'], .capture ['C'] [] 9]]
    let text := ['x', 'y', 'z']
    let o : Outcome := ⟨⟨[(['A'], ['y', 'z']), (['C'], [])]⟩, [], 3, 1⟩
    Pattern.run ⟨[], segments⟩ text = .ok o ∧
      ∃ pieces, Segments.Derives segments text pieces ∧ Pieces.text pieces = text ∧
        (∀ name, o.captures.get? name = Pieces.value? pieces name) ∧
        o.length = text.length ∧ o.anchors = Pieces.anchors pieces := by
  intro segments text o
  have h : Pattern.run ⟨[], segments⟩ text = .ok o := rfl
  exact ⟨h, run_derivation h⟩

end Pattern

end DsnBinding
