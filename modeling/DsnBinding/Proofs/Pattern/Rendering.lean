import DsnBinding.Pattern.Matching
import DsnBinding.Proofs.Pattern.Compiled
import DsnBinding.Proofs.Pattern.Derivation

/-!
Matching the fullest rendering of a pattern: every group is there, every choice is at its longest,
and every capture has a text in which no character is spelled by the pattern. Such a text cannot be
taken for a stop, and what stands behind it begins with a stop, so that each capture ends where its
text ended and no group is left out.
-/
namespace DsnBinding

/-- A text ends exactly where its first stop begins, if none of its characters belongs to a stop. -/
theorem Text.upTo_append {stops : List Text} {t rest : Text} (hne : ∀ stop ∈ stops, stop ≠ [])
    (hclear : ∀ stop ∈ stops, ∀ c ∈ t, c ∉ stop)
    (hrest : rest = [] ∨ ∃ stop ∈ stops, stop <+: rest) : Text.upTo stops (t ++ rest) = t := by
  induction t with
  | nil =>
    rcases hrest with rfl | ⟨stop, hstop, hfits⟩
    · rfl
    · have hany : stops.any (·.isPrefixOf rest) = true :=
        List.any_eq_true.2 ⟨stop, hstop, List.isPrefixOf_iff_prefix.2 hfits⟩
      cases rest with
      | nil => rfl
      | cons c rest => rw [List.nil_append, Text.upTo, if_pos hany]
  | cons c t ih =>
    have hnone : ¬ stops.any (·.isPrefixOf (c :: (t ++ rest))) = true := by
      intro hany
      obtain ⟨stop, hstop, hfits⟩ := List.any_eq_true.1 hany
      cases stop with
      | nil => exact hne [] hstop rfl
      | cons d stop =>
        have hd : d = c := (List.cons_prefix_cons.1 (List.isPrefixOf_iff_prefix.1 hfits)).1
        exact hclear _ hstop c List.mem_cons_self (hd ▸ List.mem_cons_self)
    have ht : ∀ stop ∈ stops, ∀ d ∈ t, d ∉ stop :=
      fun stop hstop d hd => hclear stop hstop d (List.mem_cons_of_mem c hd)
    rw [List.cons_append, Text.upTo, if_neg hnone, ih ht]

mutual

/-- The fullest rendering of a segment, with the given texts in place of its captures. -/
inductive Segment.Renders (texts : Text → Text) : Segment → Text → Prop
  | literal (text : Text) : Segment.Renders texts (.literal text) text
  | capture (name : Text) (stops : List Text) (offset : Nat) :
      Segment.Renders texts (.capture name stops offset) (texts name)
  | choice {options : List Text} {option : Text} (hmem : option ∈ options)
      (longest : ∀ other ∈ options, other.length ≤ option.length) :
      Segment.Renders texts (.choice options) option
  | group {inner : Segments} {t : Text} (h : Segments.Renders texts inner t) :
      Segment.Renders texts (.group inner) t

inductive Segments.Renders (texts : Text → Text) : Segments → Text → Prop
  | nil : Segments.Renders texts [] []
  | cons {segment : Segment} {rest : Segments} {t u : Text} (first : segment.Renders texts t)
      (others : Segments.Renders texts rest u) : Segments.Renders texts (segment :: rest) (t ++ u)

end

/-- A text can stand where the heads are expected. -/
def Heads.Admits (h : Heads) (t : Text) : Prop :=
  h.capture = false → t = [] ∨ ∃ text ∈ h.literals, text <+: t

/-- What is spelled out at the head of a sequence is not empty and is one of the given texts. -/
def Heads.Within (h : Heads) (marks : List Text) : Prop :=
  ∀ text ∈ h.literals, text ≠ [] ∧ text ∈ marks

/-- A sequence spells out none but the given texts, and no empty literal. -/
structure Segments.SpelledIn (segments : Segments) (marks : List Text) : Prop where
  mem : ∀ text ∈ Segments.spelled segments, text ∈ marks
  literal : ∀ text, .literal text ∈ Segments.leaves segments → text ≠ []

theorem Heads.admits_of_mem {h : Heads} {t : Text} (hmem : t ∈ h.literals) (next : Heads)
    (rest : Text) :
    (h.followedBy next).Admits (t ++ rest) := by
  intro _
  refine Or.inr ⟨t, ?_, List.prefix_append t rest⟩
  unfold Heads.followedBy
  split
  · exact List.mem_append_left _ hmem
  · exact hmem

/-- What can stand where the contents of a group are expected can stand where the group is. -/
theorem Heads.Admits.group {inner : Segments} {next : Heads} {t : Text}
    (h : ((Segments.heads inner).followedBy next).Admits t) :
    ((Segment.group inner).heads.followedBy next).Admits t := by
  intro hcapture
  have hboth : ((Segments.heads inner).capture || next.capture) = false := hcapture
  have hinner : ((Segments.heads inner).followedBy next).capture = false := by
    unfold Heads.followedBy
    split
    · exact hboth
    · exact (Bool.or_eq_false_iff.1 hboth).1
  rcases h hinner with hnil | ⟨text, htext, hfits⟩
  · exact Or.inl hnil
  · refine Or.inr ⟨text, ?_, hfits⟩
    unfold Heads.followedBy at htext
    split at htext
    · exact htext
    · exact List.mem_append_left _ htext

theorem exists_longest {options : List Text} (h : options ≠ []) :
    ∃ option ∈ options, ∀ other ∈ options, other.length ≤ option.length := by
  have hpairwise := longestFirst_pairwise options
  have hperm := longestFirst_perm options
  cases hsorted : longestFirst options with
  | nil => exact absurd (hsorted ▸ hperm).nil_eq.symm h
  | cons option rest =>
    have hmem : ∀ other, other ∈ options ↔ other ∈ option :: rest :=
      fun _ => hsorted ▸ hperm.mem_iff.symm
    rw [hsorted] at hpairwise
    refine ⟨option, (hmem option).2 List.mem_cons_self, ?_⟩
    intro other hother
    rcases List.mem_cons.1 ((hmem other).1 hother) with rfl | hother
    · exact Nat.le_refl _
    · exact (List.pairwise_cons.1 hpairwise).1 other hother

theorem eq_nil_of_longest {options : List Text}
    (longest : ∀ other ∈ options, other.length ≤ ([] : Text).length) :
    ∀ option ∈ options, option = [] := by
  intro option hoption
  have hle : option.length ≤ 0 := longest option hoption
  exact List.length_eq_zero_iff.1 (Nat.le_zero.1 hle)

theorem Segment.heads_choice_eq_nothing {options : List Text} (hmem : [] ∈ options)
    (hempty : ∀ option ∈ options, option = []) : (Segment.choice options).heads = Heads.nothing := by
  have hfilter : options.filter (!·.isEmpty) = [] := by
    apply List.filter_eq_nil_iff.2
    intro option hoption
    simp [hempty option hoption]
  have hany : options.any (·.isEmpty) = true := List.any_eq_true.2 ⟨[], hmem, rfl⟩
  rw [Segment.heads, hfilter, hany]
  rfl

theorem Heads.Within.followedBy {h k : Heads} {marks : List Text} (hh : h.Within marks)
    (hk : k.Within marks) : (h.followedBy k).Within marks := by
  intro text htext
  unfold Heads.followedBy at htext
  split at htext
  · rcases List.mem_append.1 htext with htext | htext
    · exact hh text htext
    · exact hk text htext
  · exact hh text htext

namespace Segments

theorem spelledIn_cons {segment : Segment} {rest : Segments} {marks : List Text} :
    SpelledIn (segment :: rest) marks ↔ SpelledIn [segment] marks ∧ SpelledIn rest marks := by
  constructor
  · intro hsome
    obtain ⟨hmem, hliteral⟩ := hsome
    refine ⟨⟨?_, ?_⟩, ⟨?_, ?_⟩⟩
    · intro text htext
      exact hmem text (List.mem_append_left _ (by simpa [spelled] using htext))
    · intro text htext
      exact hliteral text (List.mem_append_left _ (by simpa [leaves] using htext))
    · exact fun text htext => hmem text (List.mem_append_right _ htext)
    · exact fun text htext => hliteral text (List.mem_append_right _ htext)
  · intro hsome
    obtain ⟨⟨hmem, hliteral⟩, ⟨hmem', hliteral'⟩⟩ := hsome
    refine ⟨?_, ?_⟩
    · intro text htext
      rcases List.mem_append.1 htext with htext | htext
      · exact hmem text (by simpa [spelled] using htext)
      · exact hmem' text htext
    · intro text htext
      rcases List.mem_append.1 htext with htext | htext
      · exact hliteral text (by simpa [leaves] using htext)
      · exact hliteral' text htext

theorem spelledIn_group {inner : Segments} {marks : List Text} :
    SpelledIn [.group inner] marks ↔ SpelledIn inner marks := by
  constructor
  · intro hsome
    obtain ⟨hmem, hliteral⟩ := hsome
    exact ⟨by simpa [spelled, Segment.spelled] using hmem,
      by simpa [leaves, Segment.leaves] using hliteral⟩
  · intro hsome
    obtain ⟨hmem, hliteral⟩ := hsome
    exact ⟨by simpa [spelled, Segment.spelled] using hmem,
      by simpa [leaves, Segment.leaves] using hliteral⟩

theorem within_heads {segments : Segments} {marks : List Text} (h : SpelledIn segments marks) :
    (heads segments).Within marks := by
  induction segments using nestedInduction with
  | nil => simp [heads, Heads.nothing, Heads.Within]
  | cons segment rest hinner ih =>
    obtain ⟨hsegment, hrest⟩ := spelledIn_cons.1 h
    refine Heads.Within.followedBy ?_ (ih hrest)
    cases segment with
    | literal text =>
      intro text' htext'
      obtain rfl : text' = text := by simpa [Segment.heads] using htext'
      exact ⟨hsegment.literal _ (by simp [leaves, Segment.leaves]),
        hsegment.mem _ (by simp [spelled, Segment.spelled])⟩
    | choice options =>
      intro text htext
      obtain ⟨hmem, hne⟩ : text ∈ options ∧ text ≠ [] := by simpa [Segment.heads] using htext
      exact ⟨hne, hsegment.mem _ (by simpa [spelled, Segment.spelled] using hmem)⟩
    | group inner => exact hinner inner rfl (spelledIn_group.1 hsegment)
    | capture _ _ _ | bare => simp [Segment.heads, Heads.nothing, Heads.Within]

theorem Renders.admits {texts : Text → Text} {segments : Segments} {t rest : Text} {next : Heads}
    (h : Renders texts segments t) (hnext : next.Admits rest) :
    ((heads segments).followedBy next).Admits (t ++ rest) := by
  induction segments using nestedInduction generalizing t rest next with
  | nil =>
    cases h
    simpa [heads] using hnext
  | cons segment others hinner ih =>
    cases h with | @cons _ _ t u first others' =>
    have hothers := ih others' hnext
    rw [heads, Heads.followedBy_assoc, List.append_assoc]
    cases first with
    | literal text => exact Heads.admits_of_mem (by simp [Segment.heads]) _ _
    | capture name stops offset =>
      intro hcapture
      cases hcapture
    | @choice options _ hmem longest =>
      by_cases ht : t = []
      · subst ht
        rw [Segment.heads_choice_eq_nothing hmem (eq_nil_of_longest longest),
          Heads.nothing_followedBy]
        exact hothers
      · exact Heads.admits_of_mem (by simp [Segment.heads, hmem, ht]) _ _
    | @group inner _ hrenders => exact (hinner inner rfl hrenders hothers).group

/-- Every capture contributes to the rendering. -/
theorem Renders.ne_nil {texts : Text → Text} {segments : Segments} {t name : Text}
    (h : Renders texts segments t) (hname : name ∈ names segments) (hne : texts name ≠ []) :
    t ≠ [] := by
  induction segments using nestedInduction generalizing t with
  | nil => cases hname
  | cons segment others hinner ih =>
    cases h with | @cons _ _ t u first others' =>
    intro hnil
    obtain ⟨ht, hu⟩ := List.append_eq_nil_iff.1 hnil
    rcases List.mem_append.1 hname with hname | hname
    · cases first with
      | literal _ | choice _ _ => cases hname
      | capture name' _ _ =>
        obtain rfl := List.mem_singleton.1 hname
        exact hne ht
      | @group inner _ hrenders => exact hinner inner rfl hrenders hname ht
    · exact ih others' hname hu

end Segments

/-- A text can stand in place of a capture: it is not empty, and no character of it is spelled. -/
def Text.IsClearOf (marks : List Text) (t : Text) : Prop :=
  t ≠ [] ∧ ∀ mark ∈ marks, ∀ c ∈ t, c ∉ mark

/-- A cursor has moved on to the given rest and has captured the texts of the names. -/
structure Cursor.Fills (texts : Text → Text) (names : List Text) (rest : Text) (s s' : Cursor) :
    Prop where
  rest : s'.rest = rest
  captures : ∀ name,
    s'.captures.get? name = if name ∈ names then some (texts name) else s.captures.get? name

namespace Cursor.Fills

variable {texts : Text → Text} {s s' s'' : Cursor}

theorem trans {names names' : List Text} {rest rest' : Text} (h : Fills texts names rest s s')
    (h' : Fills texts names' rest' s' s'') : Fills texts (names ++ names') rest' s s'' := by
  refine ⟨h'.rest, ?_⟩
  intro name
  rw [h'.captures, h.captures]
  by_cases hname : name ∈ names <;> by_cases hname' : name ∈ names' <;> simp [hname, hname']

theorem of_consume {t rest : Text} (h : s.rest = t ++ rest) :
    Fills texts [] rest s (s.consume t.length).anchor :=
  ⟨by simp [Cursor.consume, Cursor.anchor, h], by simp [Cursor.consume, Cursor.anchor]⟩

end Cursor.Fills

/-- At a cursor a segment begins with its rendering, if there is any, and consumes it. -/
structure Segment.Meets (texts : Text → Text) (segment : Segment) (t rest : Text) (s : Cursor) :
    Prop where
  starts : segment.starts? s.rest = some true ∨ t = [] ∧ segment.starts? s.rest = none
  consumes : ∃ s', segment.consume s = .ok s' ∧ s.Fills texts segment.names rest s'

structure Segments.Meets (texts : Text → Text) (segments : Segments) (t rest : Text) (s : Cursor) :
    Prop where
  starts : Segments.start s.rest segments = true ∨ t = []
  consumes : ∃ s', Segments.consume segments s = .ok s' ∧
    s.Fills texts (Segments.names segments) rest s'

namespace Segment

variable {texts : Text → Text} {t rest : Text} {s : Cursor}

theorem literal_meets (hs : s.rest = t ++ rest) : (Segment.literal t).Meets texts t rest s := by
  have hfits : t.isPrefixOf s.rest = true := by
    rw [hs]
    exact List.isPrefixOf_iff_prefix.2 (List.prefix_append t rest)
  refine ⟨Or.inl ?_, _, ?_, Cursor.Fills.of_consume hs⟩
  · rw [starts?, hfits]
  · rw [consume, if_pos hfits]

/-- A capture whose text ends where the first stop begins. -/
theorem capture_meets {name : Text} {stops : List Text} (offset : Nat)
    (hends : Text.upTo stops s.rest = texts name) (hne : texts name ≠ [])
    (hs : s.rest = texts name ++ rest) :
    (Segment.capture name stops offset).Meets texts (texts name) rest s := by
  refine ⟨Or.inl ?_, _, rfl, ?_, ?_⟩
  · simp [starts?, hends, hne]
  · rw [Cursor.capture, hends]
    simp [Cursor.consume, hs]
  · intro name'
    by_cases h : name' = name
    · subst h
      simp [Cursor.capture, hends, OrderedMap.get?_insert, names]
    · simp [Cursor.capture, Cursor.consume, OrderedMap.get?_insert, names, h, Ne.symm h]

/-- A clear text ends where the first stop begins, since a stop begins behind it and none begins
before. -/
theorem upTo_eq_of_isClearOf {name t : Text} {stops : List Text} {offset : Nat} {next : Heads}
    {marks : List Text} (hstops : (Segment.capture name stops offset).withStops next =
      .ok (.capture name stops offset))
    (hclear : t.IsClearOf marks) (hwithin : next.Within marks) (hadmits : next.Admits rest) :
    Text.upTo stops (t ++ rest) = t := by
  obtain ⟨hcapture, rfl⟩ := withStops_capture_eq_self hstops
  apply Text.upTo_append
  · intro stop hstop
    exact (hwithin stop (List.mem_eraseDups.1 hstop)).1
  · intro stop hstop
    exact hclear.2 stop (hwithin stop (List.mem_eraseDups.1 hstop)).2
  · simpa only [List.mem_eraseDups] using hadmits hcapture

theorem choice_meets {options : List Text} (hmem : t ∈ options)
    (longest : ∀ other ∈ options, other.length ≤ t.length) (hs : s.rest = t ++ rest) :
    (Segment.choice options).Meets texts t rest s := by
  have hbegins : t <+: s.rest := hs ▸ List.prefix_append t rest
  have hfits : t.isPrefixOf s.rest = true := List.isPrefixOf_iff_prefix.2 hbegins
  have hfind : (longestFirst options).find? (·.isPrefixOf s.rest) = some t :=
    find?_longestFirst_of_longest hmem hbegins fun other hother _ => longest other hother
  by_cases ht : t = []
  · subst ht
    have hempty := eq_nil_of_longest longest
    refine ⟨Or.inr ⟨rfl, ?_⟩, s, ?_, hs, by simp [names]⟩
    · have hsome : options.any (·.isEmpty) = true := List.any_eq_true.2 ⟨[], hmem, rfl⟩
      have hnone :
          ¬ (options.any fun option => !option.isEmpty && option.isPrefixOf s.rest) = true := by
        intro hany
        obtain ⟨option, hoption, hb⟩ := List.any_eq_true.1 hany
        simp [hempty option hoption] at hb
      rw [starts?, if_neg hnone, if_pos hsome]
    · rw [consume, hfind]
  · refine ⟨Or.inl ?_, _, ?_, Cursor.Fills.of_consume hs⟩
    · have hany : (options.any fun option => !option.isEmpty && option.isPrefixOf s.rest) = true :=
        List.any_eq_true.2 ⟨t, hmem, by simp [ht, hfits]⟩
      rw [starts?, if_pos hany]
    · rw [consume, hfind]
      cases t with
      | nil => exact absurd rfl ht
      | cons c t => rfl

theorem group_meets {inner : Segments} (hs : s.rest = t ++ rest)
    (hnames : t = [] → Segments.names inner = []) (h : Segments.Meets texts inner t rest s) :
    (Segment.group inner).Meets texts t rest s := by
  obtain ⟨hstarts, s', hconsume, hfills⟩ := h
  by_cases hstart : Segments.start s.rest inner = true
  · refine ⟨Or.inl ?_, s', ?_, hfills⟩
    · rw [starts?, if_pos hstart]
    · rw [consume, if_pos hstart, hconsume]
  · have ht : t = [] := hstarts.resolve_left hstart
    have hnone := hnames ht
    refine ⟨Or.inr ⟨ht, ?_⟩, s, ?_, ?_, ?_⟩
    · rw [starts?, if_neg hstart]
    · rw [consume, if_neg hstart, hnone]
      rfl
    · rw [hs, ht, List.nil_append]
    · simp [names, hnone]

end Segment

theorem Segments.meets_cons {texts : Text → Text} {segment : Segment} {others : Segments}
    {t u rest : Text} {s : Cursor} (hs : s.rest = t ++ (u ++ rest))
    (hfirst : segment.Meets texts t (u ++ rest) s)
    (hothers : ∀ s', s'.rest = u ++ rest → Meets texts others u rest s') :
    Meets texts (segment :: others) (t ++ u) rest s := by
  obtain ⟨hstarts, s', hconsume, hfills⟩ := hfirst
  obtain ⟨hstarts', s'', hconsume', hfills'⟩ := hothers s' hfills.rest
  refine ⟨?_, s'', ?_, hfills.trans hfills'⟩
  · rcases hstarts with hstarts | ⟨rfl, hstarts⟩
    · left
      rw [start, hstarts, Option.getD_some]
    · rw [start, hstarts, Option.getD_none, hs]
      rw [hfills.rest] at hstarts'
      exact hstarts'
  · rw [consume, hconsume]
    exact hconsume'

/-- A sequence with its stops consumes its rendering, wherever what stands behind the rendering can
be told from the texts of the captures. -/
theorem Segments.Renders.meets {texts : Text → Text} {marks : List Text} {segments : Segments}
    {next : Heads} {t rest : Text} {s : Cursor} (h : Renders texts segments t)
    (hstops : withStops next segments = .ok segments) (hspelled : SpelledIn segments marks)
    (hclear : ∀ name ∈ names segments, (texts name).IsClearOf marks) (hwithin : next.Within marks)
    (hadmits : next.Admits rest) (hs : s.rest = t ++ rest) : Meets texts segments t rest s := by
  induction segments using nestedInduction generalizing next t rest s with
  | nil =>
    cases h
    exact ⟨Or.inr rfl, s, rfl, hs, by simp [names]⟩
  | cons segment others hinner ih =>
    cases h with | @cons _ _ t u first others' =>
    obtain ⟨hspelledFirst, hspelledOthers⟩ := spelledIn_cons.1 hspelled
    have hclearFirst : ∀ name ∈ segment.names, (texts name).IsClearOf marks :=
      fun name hname => hclear name (List.mem_append_left _ hname)
    have hclearOthers : ∀ name ∈ names others, (texts name).IsClearOf marks :=
      fun name hname => hclear name (List.mem_append_right _ hname)
    have hfollow := others'.admits hadmits
    have hwithinFollow := (within_heads hspelledOthers).followedBy hwithin
    obtain ⟨hstopsFirst, hstopsOthers⟩ := withStops_cons_eq_self hstops
    rw [List.append_assoc] at hs
    have hfirst : segment.Meets texts t (u ++ rest) s := by
      cases first with
      | literal text => exact Segment.literal_meets hs
      | choice hmem longest => exact Segment.choice_meets hmem longest hs
      | capture name stops offset =>
        have htext := hclearFirst name List.mem_cons_self
        refine Segment.capture_meets offset ?_ htext.1 hs
        rw [hs]
        exact Segment.upTo_eq_of_isClearOf hstopsFirst htext hwithinFollow hfollow
      | @group inner _ hrenders =>
        refine Segment.group_meets hs ?_ ?_
        · intro ht
          apply List.eq_nil_iff_forall_not_mem.2
          intro name hname
          exact hrenders.ne_nil hname (hclearFirst name hname).1 ht
        · exact hinner inner rfl hrenders (Segment.withStops_group_eq_self hstopsFirst)
            (spelledIn_group.1 hspelledFirst) hclearFirst hwithinFollow hfollow hs
    apply Segments.meets_cons hs hfirst
    intro s' hs'
    exact ih others' hstopsOthers hspelledOthers hclearOthers hwithin hadmits hs'

theorem Segments.exists_renders {segments : Segments} (hoptions : HasOptions segments)
    (hbare : Segment.bare ∉ leaves segments) (texts : Text → Text) :
    ∃ t, Renders texts segments t := by
  induction segments using nestedInduction with
  | nil => exact ⟨[], .nil⟩
  | cons segment rest hinner ih =>
    obtain ⟨hfirstOptions, hrestOptions⟩ := hasOptions_cons.1 hoptions
    have hfirst : ∃ t, segment.Renders texts t := by
      cases segment with
      | literal text => exact ⟨text, .literal text⟩
      | capture name stops offset => exact ⟨texts name, .capture name stops offset⟩
      | choice options =>
        obtain ⟨option, hmem, longest⟩ := exists_longest (hasOptions_choice.1 hfirstOptions)
        exact ⟨option, .choice hmem longest⟩
      | group inner =>
        obtain ⟨t, hrenders⟩ := hinner inner rfl (hasOptions_group.1 hfirstOptions)
          fun hmem => hbare (List.mem_append_left _ hmem)
        exact ⟨t, .group hrenders⟩
      | bare => exact absurd (List.mem_append_left _ (List.mem_singleton.2 rfl)) hbare
    obtain ⟨t, hrenders⟩ := hfirst
    obtain ⟨u, hrenders'⟩ := ih hrestOptions fun hmem => hbare (List.mem_append_right _ hmem)
    exact ⟨t ++ u, .cons hrenders hrenders'⟩

namespace Pattern

theorem exists_run_of_meets {p : Pattern} {texts : Text → Text} {t : Text}
    (h : Segments.Meets texts p.segments t [] (Cursor.start t)) :
    ∃ o, p.run t = .ok o ∧
      ∀ name, o.captures.get? name = if name ∈ p.names then some (texts name) else none := by
  obtain ⟨-, s, hconsume, hfills⟩ := h
  obtain ⟨o, hrun, hcaptures, -⟩ := exists_run_of_consume hconsume hfills.rest
  refine ⟨o, hrun, ?_⟩
  rw [hcaptures]
  exact hfills.captures

/-- A compiled pattern matches its fullest rendering and captures the texts it was rendered with, if
they are clear of what it spells out. -/
theorem exists_run_of_renders {template t : Text} {p : Pattern} {texts : Text → Text}
    (h : compile template = .ok p) (hrenders : Segments.Renders texts p.segments t)
    (hclear : ∀ name ∈ p.names, (texts name).IsClearOf (Segments.spelled p.segments)) :
    ∃ o, p.run t = .ok o ∧
      ∀ name, o.captures.get? name = if name ∈ p.names then some (texts name) else none := by
  obtain ⟨-, -, hstops⟩ := compile_eq_ok h
  have hspelled : Segments.SpelledIn p.segments (Segments.spelled p.segments) :=
    ⟨fun _ htext => htext, fun _ htext => (literal_compile h htext).1⟩
  have hwithin : Heads.nothing.Within (Segments.spelled p.segments) := by
    simp [Heads.Within, Heads.nothing]
  have hrest : (Cursor.start t).rest = t ++ [] := (List.append_nil t).symm
  exact exists_run_of_meets
    (hrenders.meets hstops hspelled hclear hwithin (fun _ => Or.inl rfl) hrest)

/-- A template that compiles has a fullest rendering for any texts that are clear of what it spells
out. Its pattern matches each fullest rendering and captures the text of each variable, also of one
that occurs several times, and nothing else. -/
theorem run_fullest_rendering {template : Text} {p : Pattern} {texts : Text → Text}
    (h : compile template = .ok p)
    (hclear : ∀ name ∈ p.names, (texts name).IsClearOf (Segments.spelled p.segments)) :
    (∃ t, Segments.Renders texts p.segments t) ∧
      ∀ t, Segments.Renders texts p.segments t →
        ∃ o, p.run t = .ok o ∧
          ∀ name, o.captures.get? name = if name ∈ p.names then some (texts name) else none :=
  ⟨Segments.exists_renders (hasOptions_compile h) (bare_not_mem_leaves h) texts,
    fun _ hrenders => exists_run_of_renders h hrenders hclear⟩

/-- A choice, and a variable that occurs again in nested groups. -/
theorem run_fullest_rendering_repeated_name :
    let template : Text :=
      ['(', 'b', '|', 'c', 'd', ')', '$', 'A', '[', ':', '$', 'B', '[', '/', '$', 'A', ']', ']']
    let segments : Segments :=
      [.choice [['b'], ['c', 'd']], .capture ['A'] [[':']] 6,
        .group [.literal [':'], .capture ['B'] [['/']] 10,
          .group [.literal ['/'], .capture ['A'] [] 14]]]
    let p : Pattern := ⟨template, segments⟩
    let texts : Text → Text := fun name => if name = ['A'] then ['x', 'y'] else ['z']
    compile template = .ok p ∧
      (∀ name ∈ p.names, (texts name).IsClearOf (Segments.spelled p.segments)) ∧
      (∃ t, Segments.Renders texts p.segments t) ∧
      ∀ t, Segments.Renders texts p.segments t →
        ∃ o, p.run t = .ok o ∧
          ∀ name, o.captures.get? name = if name ∈ p.names then some (texts name) else none := by
  intro template segments p texts
  have hcompile : compile template = .ok p := by rfl
  have hspelled : Segments.spelled p.segments = [['b'], ['c', 'd'], [':'], ['/']] := rfl
  have hclear : ∀ name ∈ p.names, (texts name).IsClearOf (Segments.spelled p.segments) := by
    rw [hspelled]
    intro name _
    by_cases hname : name = ['A'] <;> simp [texts, hname, Text.IsClearOf]
  exact ⟨hcompile, hclear, run_fullest_rendering hcompile hclear⟩

end Pattern

end DsnBinding
