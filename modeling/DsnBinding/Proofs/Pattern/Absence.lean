import DsnBinding.Proofs.Pattern.Accounting
import DsnBinding.Proofs.Pattern.Meeting

/-!
Leaving out a group. What stands before a group loses stops if the group is taken out of the
template, and a capture could run on where it ended at the head of the group. Where matching finds
the group empty it cannot: a head of the group that begins there would have made it present. So
whatever is found with the group empty is found without the group as well.
-/
namespace DsnBinding

namespace Segments

variable {segments a : Segments} {next : Heads}

theorem literal_mem_leaves_of_withStops {text : Text} (h : withStops next segments = .ok a)
    (hmem : .literal text ∈ leaves a) : .literal text ∈ leaves segments := by
  have hshape := congrArg leaves (withoutStops_withStops h)
  rw [leaves_withoutStops, leaves_withoutStops] at hshape
  have hmem : Segment.literal text ∈ (leaves segments).map Segment.withoutStops :=
    hshape ▸ List.mem_map_of_mem hmem
  obtain ⟨leaf, hleaf, heq⟩ := List.mem_map.1 hmem
  cases leaf with
  | literal _ =>
    obtain rfl := Segment.literal.inj heq
    exact hleaf
  | capture _ _ _ | choice _ | group _ | bare => cases heq

/-- What stands before a group loses stops if the group is taken out. -/
theorem narrows_group (inner : Segments) (next : Heads) :
    next.Narrows ((Segment.group inner).heads.followedBy next) :=
  ⟨fun _ hmem => List.mem_append_right _ hmem, fun h => (Bool.or_eq_false_iff.1 h).2⟩

theorem opens_of_finds_empty_group {inner : Segments} {t : Text} {piece : Piece}
    (hinner : IsResolved next inner) (h : (Segment.group inner).Finds t piece)
    (hnil : piece.text = []) (hopens : ((Segment.group inner).heads.followedBy next).Opens t) :
    next.Opens t := by
  refine ((Heads.opens_followedBy.1 hopens).resolve_left fun hopensInner => ?_).2
  refine (h.ne_nil_of_opens ?_ (fun _ heq => by cases heq) hopensInner).2 hnil
  intro inner' heq hopens
  obtain rfl := Segment.group.inj heq
  exact hinner.isMet_of_opens hopens

/-- Before a group that is found empty, the same is found without the group. -/
theorem Finds.without_group {before inner inner' a b : Segments} {t : Text} {pieces : Pieces}
    {piece : Piece} (hliterals : ∀ text, .literal text ∈ leaves inner → text ≠ [])
    (hinner : withStops next inner = .ok inner')
    (ha : withStops ((Segment.group inner).heads.followedBy next) before = .ok a)
    (hb : withStops next before = .ok b) (hpiece : (Segment.group inner').Finds t piece)
    (hnil : piece.text = []) (h : Finds a (Pieces.text pieces ++ t) pieces) :
    Finds b (Pieces.text pieces ++ t) pieces := by
  have hresolved : IsResolved next inner' := by
    refine ⟨withStops_eq_self hinner, ?_⟩
    exact fun text hmem => hliterals text (literal_mem_leaves_of_withStops hinner hmem)
  refine Finds.of_narrows (narrows_group inner next) ha hb ?_ h
  intro hopens
  refine opens_of_finds_empty_group hresolved hpiece hnil ?_
  simpa only [Segment.heads, heads_withStops hinner] using hopens

end Segments

/-- A group that is found empty gives its own names the empty text and leaves the others alone. -/
theorem Segments.value?_around_empty_group {a b inner : Segments} {ta tb t name : Text}
    {pa pb : Pieces} {piece : Piece} (ha : Derives a ta pa) (hb : Derives b tb pb)
    (hgroup : Derives [.group inner] t [piece]) (hnil : piece.text = [])
    (hnames : ∀ name ∈ names inner, name ∉ names (a ++ b)) :
    Pieces.value? (pa ++ piece :: pb) name =
      if name ∈ names inner then some [] else Pieces.value? (pa ++ pb) name := by
  have hgroupNames : names [.group inner] = names inner := List.append_nil _
  split
  · rename_i hname
    have houtside := hnames name hname
    rw [names_append, List.mem_append, not_or] at houtside
    obtain ⟨hcapturedA, hmissingA⟩ := ha.not_captured houtside.1
    obtain ⟨hcapturedB, hmissingB⟩ := hb.not_captured houtside.2
    have hempty : ∀ u ∈ Pieces.captured name [piece], u = [] := by
      intro u hu
      have hinfix := Pieces.infix_text [piece] hu
      rw [Pieces.text, hnil] at hinfix
      exact List.infix_nil.1 hinfix
    have hvalue : Pieces.value? [piece] name = some [] :=
      Pieces.value?_eq_some (hgroup.captured_or_missing (hgroupNames ▸ hname)) hempty fun _ => rfl
    rw [← hvalue]
    simp [Pieces.value?, Pieces.captured_append, Pieces.missing_append, Pieces.captured,
      Pieces.missing, hcapturedA, hmissingA, hcapturedB, hmissingB]
  · rename_i hname
    obtain ⟨hcaptured, hmissing⟩ := hgroup.not_captured (hgroupNames ▸ hname)
    simp only [Pieces.captured, Pieces.missing, List.append_nil] at hcaptured hmissing
    simp [Pieces.value?, Pieces.captured_append, Pieces.missing_append, Pieces.captured,
      Pieces.missing, hcaptured, hmissing]

namespace Pattern

theorem exists_finds_around {a b : Segments} {segment : Segment} {p : Pattern} {text : Text}
    {o : Outcome} {s s' : Cursor} (hsegments : p.segments = a ++ segment :: b)
    (hrun : p.run text = .ok o) (hs : Segments.consume a (Cursor.start text) = .ok s)
    (hs' : Segments.consume (a ++ [segment]) (Cursor.start text) = .ok s') :
    ∃ pa piece pb, Segments.Finds a text pa ∧ text = Pieces.text pa ++ s.rest ∧
      segment.Finds s.rest piece ∧ s.AdvancesBy [piece] s' ∧
      Segments.Finds b s'.rest pb ∧ s'.rest = Pieces.text pb ∧
      ∀ name, o.captures.get? name = Pieces.value? (pa ++ piece :: pb) name := by
  obtain ⟨send, hall, hend, hcaptures, -⟩ := consume_of_run hrun
  have hsegment : segment.consume s = .ok s' := by
    rw [Segments.consume_append, hs] at hs'
    cases hconsume : segment.consume s with
    | error halt => simp [Segments.consume, hconsume] at hs'
    | ok s'' => simpa [Segments.consume, hconsume] using hs'
  have hbehind : Segments.consume b s' = .ok send := by
    simpa only [hsegments, Segments.consume_append, hs, Segments.consume, hsegment] using hall
  obtain ⟨pa, hpa, hadvances⟩ := (Segments.isCovered a).finds _ _ hs
  obtain ⟨piece, hpiece, hadvances'⟩ :=
    Segment.exists_finds (fun inner _ => Segments.isCovered inner) hsegment
  obtain ⟨pb, hpb, hadvances''⟩ := (Segments.isCovered b).finds _ _ hbehind
  refine ⟨pa, piece, pb, hpa, hadvances.rest, hpiece, hadvances', hpb, ?_, ?_⟩
  · simpa [hend] using hadvances''.rest
  · intro name
    have hvalue := ((hadvances.trans hadvances').trans hadvances'').captures name
    rw [List.append_assoc] at hvalue
    rw [hcaptures]
    simpa [Cursor.start, Pieces.value?] using hvalue

theorem exists_run_without_group {before inner behind : Segments} {p p' : Pattern} {text : Text}
    {o : Outcome} {s s' : Cursor}
    (hliterals : ∀ text, .literal text ∈ Segments.leaves inner → text ≠ [])
    (hnames : ∀ name ∈ Segments.names inner, name ∉ Segments.names (before ++ behind))
    (h : Segments.withStops Heads.nothing (before ++ .group inner :: behind) = .ok p.segments)
    (h' : Segments.withStops Heads.nothing (before ++ behind) = .ok p'.segments)
    (hrun : p.run text = .ok o)
    (hs : Segments.consume (p.segments.take before.length) (Cursor.start text) = .ok s)
    (hs' : Segments.consume (p.segments.take (before.length + 1)) (Cursor.start text) = .ok s')
    (hposition : s'.position = s.position) :
    ∃ o', p'.run text = .ok o' ∧ ∀ name, o.captures.get? name =
      if name ∈ Segments.names inner then some [] else o'.captures.get? name := by
  obtain ⟨a, _, ha, hbehind, hsegments⟩ := Segments.withStops_append_eq_ok.1 h
  obtain ⟨_, b, hgroup, hb, rfl⟩ := Segments.withStops_cons_eq_ok.1 hbehind
  obtain ⟨inner', hinner, rfl⟩ := Segment.withStops_group_eq_ok.1 hgroup
  obtain ⟨a', b', ha', hb', hsegments'⟩ := Segments.withStops_append_eq_ok.1 h'
  obtain rfl : b = b' := Except.ok.inj (hb.symm.trans hb')
  have hlength := Segments.length_withStops ha
  have htake : p.segments.take (before.length + 1) = a ++ [.group inner'] := by
    rw [hsegments, List.append_cons, List.take_left' (by simp [hlength])]
  rw [hsegments, List.take_left' hlength] at hs
  rw [htake] at hs'
  obtain ⟨pa, piece, pb, hpa, htext, hpiece, hadvances, hpb, hend, hcaptures⟩ :=
    exists_finds_around hsegments hrun hs hs'
  have hnil : piece.text = [] := by
    have hmoved := hadvances.position
    rw [hposition, Pieces.text, Pieces.text, List.append_nil] at hmoved
    exact List.length_eq_zero_iff.1 (by omega)
  have hrest : s.rest = s'.rest := by rw [hadvances.rest_eq, hnil, List.nil_append]
  rw [Segments.heads, Heads.followedBy_nothing] at ha
  rw [Heads.followedBy_nothing] at ha' hinner
  have hpa' : Segments.Finds a' text pa := by
    rw [htext] at hpa ⊢
    exact hpa.without_group hliterals hinner ha ha' hpiece hnil
  have hfound : Segments.Finds p'.segments text (pa ++ pb) := by
    rw [htext, hrest] at hpa' ⊢
    rw [hsegments']
    exact hpa'.append hpb
  obtain ⟨o', hrun', hcaptures'⟩ := exists_run_of_finds hfound
    (by rw [Pieces.text_append, htext, hrest, hend])
  refine ⟨o', hrun', ?_⟩
  intro name
  rw [hcaptures, hcaptures']
  have hnamesInner := Segments.names_withStops hinner
  have hgroup : Segments.Derives [.group inner'] (piece.text ++ s'.rest) [piece] := by
    rw [hadvances.rest_eq] at hpiece
    exact (Segments.Finds.cons hpiece (.nil s'.rest)).derives
  rw [← hnamesInner]
  refine Segments.value?_around_empty_group hpa.derives hpb.derives hgroup hnil ?_
  rw [hnamesInner, Segments.names_append, Segments.names_withStops ha, Segments.names_withStops hb,
    ← Segments.names_append]
  exact hnames

/-- With a group, a template compiles only if it compiles without the group. Where matching finds
the group empty, it matches the same text without the group, to the same end, and captures the same
but for the empty texts of the names in the group. -/
theorem run_without_empty_group {before inner behind : Segments} {p : Pattern}
    (hliterals : ∀ text, .literal text ∈ Segments.leaves inner → text ≠ [])
    (hnames : ∀ name ∈ Segments.names inner, name ∉ Segments.names (before ++ behind))
    (h : Segments.withStops Heads.nothing (before ++ .group inner :: behind) = .ok p.segments) :
    ∃ p' : Pattern, Segments.withStops Heads.nothing (before ++ behind) = .ok p'.segments ∧
      ∀ text o s s', p.run text = .ok o →
        Segments.consume (p.segments.take before.length) (Cursor.start text) = .ok s →
        Segments.consume (p.segments.take (before.length + 1)) (Cursor.start text) = .ok s' →
        s'.position = s.position →
        ∃ o', p'.run text = .ok o' ∧ o'.length = o.length ∧ ∀ name, o.captures.get? name =
          if name ∈ Segments.names inner then some [] else o'.captures.get? name := by
  obtain ⟨a, _, ha, hbehind, -⟩ := Segments.withStops_append_eq_ok.1 h
  obtain ⟨_, b, -, hb, rfl⟩ := Segments.withStops_cons_eq_ok.1 hbehind
  rw [Segments.heads, Heads.followedBy_nothing] at ha
  obtain ⟨a', ha'⟩ :=
    Segments.exists_withStops_of_narrows (Segments.narrows_group inner (Segments.heads behind)) ha
  let p' : Pattern := ⟨[], a' ++ b⟩
  have h' : Segments.withStops Heads.nothing (before ++ behind) = .ok p'.segments := by
    refine Segments.withStops_append_eq_ok.2 ⟨a', b, ?_, hb, rfl⟩
    rw [Heads.followedBy_nothing, ha']
  refine ⟨p', h', ?_⟩
  intro text o s s' hrun hs hs' hposition
  obtain ⟨o', hrun', hcaptures⟩ :=
    exists_run_without_group hliterals hnames h h' hrun hs hs' hposition
  exact ⟨o', hrun', (length_of_run hrun').trans (length_of_run hrun).symm, hcaptures⟩

/-- The colon ends the capture of an earlier group, too, and is no stop without the group. -/
theorem run_without_empty_group_behind_group :
    let template : Text :=
      ['$', 'A', '[', '/', '$', 'B', ']', '[', ':', '$', 'C', ']', '#', '$', 'D']
    let before : Segments := [.capture ['A'] [] 0, .group [.literal ['/'], .capture ['B'] [] 4]]
    let inner : Segments := [.literal [':'], .capture ['C'] [] 9]
    let behind : Segments := [.literal ['#'], .capture ['D'] [] 13]
    let p : Pattern := ⟨template,
      [.capture ['A'] [['/'], [':'], ['#']] 0,
        .group [.literal ['/'], .capture ['B'] [[':'], ['#']] 4],
        .group [.literal [':'], .capture ['C'] [['#']] 9], .literal ['#'], .capture ['D'] [] 13]⟩
    let text : Text := ['a', '/', 'b', '#', 'c', ':', 'd']
    Template.outline template = .ok (before ++ .group inner :: behind) ∧
      compile template = .ok p ∧
      ∃ (o : Outcome) (p' : Pattern) (o' : Outcome), p.run text = .ok o ∧
        Segments.withStops Heads.nothing (before ++ behind) = .ok p'.segments ∧
        p'.run text = .ok o' ∧ o'.length = o.length ∧ ∀ name, o.captures.get? name =
          if name ∈ Segments.names inner then some [] else o'.captures.get? name := by
  intro template before inner behind p text
  have hcompile : compile template = .ok p := by rfl
  have hliterals : ∀ text, .literal text ∈ Segments.leaves inner → text ≠ [] := by
    simp [inner, Segments.leaves, Segment.leaves]
  have h : Segments.withStops Heads.nothing (before ++ .group inner :: behind) = .ok p.segments :=
    rfl
  obtain ⟨p', h', hsame⟩ := run_without_empty_group hliterals (by decide) h
  obtain ⟨o', hrun', hlength, hcaptures⟩ := hsame text _ _ _ rfl rfl rfl rfl
  exact ⟨rfl, hcompile, _, p', o', rfl, h', hrun', hlength, hcaptures⟩

end Pattern

end DsnBinding
