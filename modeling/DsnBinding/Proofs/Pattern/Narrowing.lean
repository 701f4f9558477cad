import DsnBinding.Proofs.Pattern.Compiled
import DsnBinding.Proofs.Pattern.Opening

/-!
The same sequence with fewer stops. If less can follow a sequence, its captures lose stops. Whatever
was found of it is found again if no stop that is lost stood behind a capture; and since a stop
from behind the sequence can only stand there if all in between is empty, it is enough to look at
what stands behind the sequence.
-/
namespace DsnBinding

theorem Text.upTo_eq_nil_iff {stops : List Text} {t : Text} :
    Text.upTo stops t = [] ↔ t = [] ∨ ∃ stop ∈ stops, stop <+: t := by
  cases t with
  | nil => simp [Text.upTo]
  | cons c t =>
    simp only [Text.upTo, ite_eq_left_iff, reduceCtorEq, imp_false, List.any_eq_true,
      List.isPrefixOf_iff_prefix, Decidable.not_not, false_or]

namespace Heads

/-- The second heads allow no more than the first. -/
structure Narrows (next' next : Heads) : Prop where
  literals : ∀ text ∈ next'.literals, text ∈ next.literals
  capture : next.capture = false → next'.capture = false

variable {next next' : Heads}

theorem Narrows.opens (h : next'.Narrows next) {t : Text} (ht : next'.Opens t) : next.Opens t := by
  obtain ⟨text, hmem, hbegins⟩ := ht
  exact ⟨text, h.literals text hmem, hbegins⟩

theorem Narrows.followedBy (h : next'.Narrows next) (k : Heads) :
    (k.followedBy next').Narrows (k.followedBy next) := by
  refine ⟨?_, ?_⟩
  · intro text hmem
    unfold Heads.followedBy at hmem ⊢
    split
    · rename_i hempty
      rw [if_pos hempty] at hmem
      rcases List.mem_append.1 hmem with hmem | hmem
      · exact List.mem_append_left _ hmem
      · exact List.mem_append_right _ (h.literals text hmem)
    · rename_i hempty
      rwa [if_neg hempty] at hmem
  · rw [capture_followedBy, capture_followedBy]
    exact fun hsome => ⟨hsome.1, fun hempty => h.capture (hsome.2 hempty)⟩

theorem upTo_eq_nil_iff {h : Heads} {t : Text} :
    Text.upTo h.literals.eraseDups t = [] ↔ t = [] ∨ h.Opens t := by
  simp only [Text.upTo_eq_nil_iff, List.mem_eraseDups, Opens]

theorem followedBy_of_not_empty {h : Heads} (hempty : h.empty = false) (next : Heads) :
    h.followedBy next = h := by
  rw [Heads.followedBy, hempty]
  rfl

end Heads

theorem Segment.withStops_of_isFixed {segment segment' : Segment} {next : Heads}
    (h : segment.withStops next = .ok segment') (hfixed : segment'.isFixed = true) (next' : Heads) :
    segment.withStops next' = .ok segment' := by
  cases segment with
  | capture name stops offset =>
    obtain ⟨-, rfl⟩ := withStops_capture_eq_ok.1 h
    cases hfixed
  | group inner =>
    obtain ⟨inner', -, rfl⟩ := withStops_group_eq_ok.1 h
    cases hfixed
  | literal _ | choice _ | bare => exact h

theorem Segment.withStops_eq_of_capture {segment segment' : Segment} {next next' : Heads}
    (hinner : ∀ inner, segment = .group inner → ∀ inner',
      Segments.withStops next inner = .ok inner' → Segments.withStops next' inner = .ok inner')
    (hcapture : next.capture = true) (h : segment.withStops next = .ok segment') :
    segment.withStops next' = .ok segment' := by
  cases segment with
  | capture name stops offset =>
    rw [(withStops_capture_eq_ok.1 h).1] at hcapture
    cases hcapture
  | group inner =>
    obtain ⟨inner', hinner', rfl⟩ := withStops_group_eq_ok.1 h
    exact withStops_group_eq_ok.2 ⟨inner', hinner inner rfl inner' hinner', rfl⟩
  | literal _ | choice _ | bare => exact h

namespace Segments

variable {segments a b : Segments} {next next' : Heads}

/-- What has its stops keeps them if less can follow. -/
theorem exists_withStops_of_narrows (hnarrows : next'.Narrows next)
    (h : withStops next segments = .ok a) : ∃ b, withStops next' segments = .ok b := by
  induction segments using nestedInduction generalizing next next' a with
  | nil => exact ⟨[], rfl⟩
  | cons segment rest hinner ih =>
    obtain ⟨segment', rest', hsegment, hrest, rfl⟩ := withStops_cons_eq_ok.1 h
    obtain ⟨others, hothers⟩ := ih hnarrows hrest
    have hnarrows := hnarrows.followedBy (heads rest)
    have hfirst : ∃ first, segment.withStops ((heads rest).followedBy next') = .ok first := by
      cases segment with
      | capture name stops offset =>
        obtain ⟨hcapture, -⟩ := Segment.withStops_capture_eq_ok.1 hsegment
        exact ⟨_, Segment.withStops_capture_eq_ok.2 ⟨hnarrows.capture hcapture, rfl⟩⟩
      | group inner =>
        obtain ⟨inner', hinner', rfl⟩ := Segment.withStops_group_eq_ok.1 hsegment
        obtain ⟨contents, hcontents⟩ := hinner inner rfl hnarrows hinner'
        exact ⟨_, Segment.withStops_group_eq_ok.2 ⟨contents, hcontents, rfl⟩⟩
      | literal _ | choice _ | bare => exact ⟨_, rfl⟩
    obtain ⟨first, hfirst⟩ := hfirst
    exact ⟨_, withStops_cons_eq_ok.2 ⟨first, others, hfirst, hothers, rfl⟩⟩

theorem withStops_eq_of_capture (hcapture : next.capture = true)
    (h : withStops next segments = .ok a) (next' : Heads) : withStops next' segments = .ok a := by
  induction segments using nestedInduction generalizing next next' a with
  | nil => exact h
  | cons segment rest hinner ih =>
    obtain ⟨segment', rest', hsegment, hrest, rfl⟩ := withStops_cons_eq_ok.1 h
    refine withStops_cons_eq_ok.2 ⟨segment', rest', ?_, ih hcapture hrest next', rfl⟩
    cases hempty : (heads rest).empty with
    | false =>
      rw [Heads.followedBy_of_not_empty hempty] at hsegment ⊢
      exact hsegment
    | true =>
      have hcapture : ((heads rest).followedBy next).capture = true := by
        simp [Heads.followedBy, hempty, hcapture]
      exact Segment.withStops_eq_of_capture (fun inner heq _ hinner' =>
        hinner inner heq hcapture hinner' _) hcapture hsegment

/-- A sequence that begins here begins with other stops as well, if no head of what follows begins
here that did not before. -/
theorem start_of_opens {t : Text} (ha : withStops next segments = .ok a)
    (hb : withStops next' segments = .ok b) (hopens : next'.Opens t → next.Opens t)
    (h : start t a = true) : start t b = true := by
  induction segments using nestedInduction generalizing next next' a b with
  | nil =>
    obtain rfl := Except.ok.inj ha
    cases h
  | cons segment rest hinner ih =>
    obtain ⟨segmentA, restA, hsegmentA, hrestA, rfl⟩ := withStops_cons_eq_ok.1 ha
    obtain ⟨segmentB, restB, hsegmentB, hrestB, rfl⟩ := withStops_cons_eq_ok.1 hb
    have hrest := ih hrestA hrestB hopens
    have hopens : ((heads rest).followedBy next').Opens t →
        ((heads rest).followedBy next).Opens t :=
      fun hsome => Heads.opens_followedBy.2
        ((Heads.opens_followedBy.1 hsome).imp_right (And.imp_right hopens))
    have hsame : ∀ o : Option Bool, o.getD (start t restA) = true →
        o.getD (start t restB) = true := by
      intro o
      cases o with
      | none => exact hrest
      | some _ => exact id
    rw [start] at h ⊢
    cases segment with
    | literal _ | choice _ | bare =>
      obtain rfl := Except.ok.inj hsegmentA
      obtain rfl := Except.ok.inj hsegmentB
      exact hsame _ h
    | capture name stops offset =>
      obtain ⟨-, rfl⟩ := Segment.withStops_capture_eq_ok.1 hsegmentA
      obtain ⟨-, rfl⟩ := Segment.withStops_capture_eq_ok.1 hsegmentB
      simp only [Segment.starts?, Option.getD_some, Bool.not_eq_true', List.isEmpty_eq_false_iff,
        ne_eq, Heads.upTo_eq_nil_iff, not_or] at h ⊢
      exact ⟨h.1, fun hsome => h.2 (hopens hsome)⟩
    | group inner =>
      obtain ⟨innerA, hinnerA, rfl⟩ := Segment.withStops_group_eq_ok.1 hsegmentA
      obtain ⟨innerB, hinnerB, rfl⟩ := Segment.withStops_group_eq_ok.1 hsegmentB
      have hgroup := hinner inner rfl hinnerA hinnerB hopens
      rw [Segment.starts?] at h ⊢
      cases hstart : start t innerB with
      | true => rfl
      | false =>
        have hnot : ¬ start t innerA = true := by
          intro hsome
          rw [hgroup hsome] at hstart
          cases hstart
        rw [if_neg hnot] at h
        exact hrest h

theorem Misses.not_empty {t : Text} (h : Misses segments t) : (heads segments).empty = false := by
  induction segments generalizing t with
  | nil => cases h
  | cons segment rest ih =>
    rw [heads, ← Bool.not_eq_true, Heads.empty_followedBy]
    cases h with
    | literal _ _ => simp [Segment.heads]
    | choice _ hfits =>
      intro hboth
      obtain ⟨option, hmem, hoption⟩ := List.any_eq_true.1 hboth.1
      obtain rfl := List.isEmpty_iff.1 hoption
      exact hfits [] hmem List.nil_prefix
    | later _ _ others => simp [ih others]

/-- What a sequence misses does not depend on what follows it. -/
theorem Misses.of_withStops {t : Text} (ha : withStops next segments = .ok a)
    (hb : withStops next' segments = .ok b) (h : Misses a t) : Misses b t := by
  induction segments generalizing a b t with
  | nil =>
    obtain rfl := Except.ok.inj ha
    cases h
  | cons segment rest ih =>
    obtain ⟨segmentA, restA, hsegmentA, hrestA, rfl⟩ := withStops_cons_eq_ok.1 ha
    obtain ⟨segmentB, restB, hsegmentB, hrestB, rfl⟩ := withStops_cons_eq_ok.1 hb
    have hfixed : segmentA.isFixed = true → segmentA = segmentB := by
      intro hfixed
      have hsame := Segment.withStops_of_isFixed hsegmentA hfixed ((heads rest).followedBy next')
      exact Except.ok.inj (hsame.symm.trans hsegmentB)
    cases h with
    | literal _ hfits =>
      obtain rfl := hfixed rfl
      exact .literal restB hfits
    | choice _ hfits =>
      obtain rfl := hfixed rfl
      exact .choice restB hfits
    | later first hanchors others =>
      have hempty := others.not_empty
      rw [heads_withStops hrestA] at hempty
      rw [Heads.followedBy_of_not_empty hempty] at hsegmentA hsegmentB
      obtain rfl : segmentA = segmentB := Except.ok.inj (hsegmentA.symm.trans hsegmentB)
      exact .later first hanchors (ih hrestA hrestB others)

end Segments

/-- A piece that ends at a stop ends at a stop that is left, if one of those begins behind it. -/
theorem Text.EndsAtStop.of_narrows {next next' : Heads} {piece t : Text}
    (h : Text.EndsAtStop next.literals.eraseDups (piece ++ t) piece)
    (hnarrows : next'.Narrows next) (hopens : next.Opens t → next'.Opens t) :
    Text.EndsAtStop next'.literals.eraseDups (piece ++ t) piece := by
  refine ⟨h.isPrefix, ?_, ?_⟩
  · intro i hi stop hstop
    exact h.before i hi stop (List.mem_eraseDups.2 (hnarrows.literals stop (List.mem_eraseDups.1 hstop)))
  · refine h.behind.imp_right fun hsome => ?_
    rw [List.drop_left] at hsome ⊢
    obtain ⟨stop, hstop, hbegins⟩ := hsome
    obtain ⟨stop', hstop', hbegins'⟩ := hopens ⟨stop, List.mem_eraseDups.1 hstop, hbegins⟩
    exact ⟨stop', List.mem_eraseDups.2 hstop', hbegins'⟩

/-- What is found of a segment is found with fewer stops as well, if one that is left begins behind
it wherever one did. -/
theorem Segment.Finds.of_narrows {segment a b : Segment} {next next' : Heads} {t : Text}
    {piece : Piece}
    (hinner : ∀ inner, segment = .group inner → ∀ a b pieces,
      Segments.withStops next inner = .ok a → Segments.withStops next' inner = .ok b →
      Segments.Finds a (Pieces.text pieces ++ t) pieces →
      Segments.Finds b (Pieces.text pieces ++ t) pieces)
    (hnarrows : next'.Narrows next) (ha : segment.withStops next = .ok a)
    (hb : segment.withStops next' = .ok b) (hopens : next.Opens t → next'.Opens t)
    (h : a.Finds (piece.text ++ t) piece) : b.Finds (piece.text ++ t) piece := by
  cases segment with
  | literal _ | choice _ | bare =>
    obtain rfl := Except.ok.inj ha
    obtain rfl := Except.ok.inj hb
    exact h
  | capture name stops offset =>
    obtain ⟨-, rfl⟩ := withStops_capture_eq_ok.1 ha
    obtain ⟨-, rfl⟩ := withStops_capture_eq_ok.1 hb
    cases h with | leaf _ hderives =>
    cases hderives with | @capture _ _ _ _ piece hends =>
    exact .leaf (fun _ heq => nomatch heq) (.capture (hends.of_narrows hnarrows hopens))
  | group inner =>
    obtain ⟨innerA, hinnerA, rfl⟩ := withStops_group_eq_ok.1 ha
    obtain ⟨innerB, hinnerB, rfl⟩ := withStops_group_eq_ok.1 hb
    have hnames : Segments.names innerA = Segments.names innerB := by
      rw [Segments.names_withStops hinnerA, Segments.names_withStops hinnerB]
    cases h with
    | leaf hleaf _ => exact absurd rfl (hleaf innerA)
    | @present _ _ pieces hstart hfinds =>
      exact .present (Segments.start_of_opens hinnerA hinnerB hnarrows.opens hstart)
        (hinner inner rfl innerA innerB pieces hinnerA hinnerB hfinds)
    | absent hstart =>
      have hstart : Segments.start t innerB = false := by
        rw [← Bool.not_eq_true] at hstart ⊢
        exact fun hsome => hstart (Segments.start_of_opens hinnerB hinnerA hopens hsome)
      rw [hnames]
      exact .absent hstart
    | undone hmisses =>
      rw [hnames]
      exact .undone (hmisses.of_withStops hinnerA hinnerB)

namespace Segments

variable {segments a b : Segments} {next next' : Heads}

theorem Finds.of_narrows {t : Text} {pieces : Pieces} (hnarrows : next'.Narrows next)
    (ha : withStops next segments = .ok a) (hb : withStops next' segments = .ok b)
    (hopens : next.Opens t → next'.Opens t) (h : Finds a (Pieces.text pieces ++ t) pieces) :
    Finds b (Pieces.text pieces ++ t) pieces := by
  induction segments using nestedInduction generalizing next next' a b t pieces with
  | nil =>
    obtain rfl := Except.ok.inj ha
    obtain rfl := Except.ok.inj hb
    exact h
  | cons segment rest hinner ih =>
    obtain ⟨segmentA, restA, hsegmentA, hrestA, rfl⟩ := withStops_cons_eq_ok.1 ha
    obtain ⟨segmentB, restB, hsegmentB, hrestB, rfl⟩ := withStops_cons_eq_ok.1 hb
    obtain ⟨piece, pieces, rfl, first, others⟩ := h.of_cons rfl
    rw [Pieces.text, List.append_assoc]
    refine .cons ?_ (ih hnarrows hrestA hrestB hopens others)
    cases hcapture : ((heads rest).followedBy next).capture with
    | true =>
      have hsame := Segment.withStops_eq_of_capture (fun _ _ _ hinner' =>
        withStops_eq_of_capture hcapture hinner' ((heads rest).followedBy next')) hcapture hsegmentA
      obtain rfl : segmentA = segmentB := Except.ok.inj (hsame.symm.trans hsegmentB)
      exact first
    | false =>
      obtain ⟨hrest, hnext⟩ := Heads.capture_followedBy.1 hcapture
      -- A head of what follows the sequence begins here only if all that is found behind is empty.
      have hopens : ((heads rest).followedBy next).Opens (Pieces.text pieces ++ t) →
          ((heads rest).followedBy next').Opens (Pieces.text pieces ++ t) := by
        intro hsome
        by_cases hrestOpens : (heads rest).Opens (Pieces.text pieces ++ t)
        · exact Heads.opens_followedBy.2 (Or.inl hrestOpens)
        · obtain ⟨hempty, ht⟩ := (Heads.opens_followedBy.1 hsome).resolve_left hrestOpens
          rw [← heads_withStops hrestA] at hrest hrestOpens
          have hnil := others.eq_nil_of_not_opens hrest hrestOpens
          rw [hnil, List.nil_append] at ht ⊢
          exact Heads.opens_followedBy.2 (Or.inr ⟨hempty, hopens ht⟩)
      have hnarrows := hnarrows.followedBy (heads rest)
      refine first.of_narrows ?_ hnarrows hsegmentA hsegmentB hopens
      exact fun inner heq _ _ _ ha hb hfinds => hinner inner heq hnarrows ha hb hopens hfinds

end Segments

end DsnBinding
