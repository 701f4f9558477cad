import DsnBinding.Proofs.Template.Spelling

/-!
What can follow a capture. The followers of a capture are collected level by level, from what comes
first in the sequences behind it. They are exactly the atoms that stand right behind the capture in
some spelling of the template.
-/
namespace DsnBinding

/-- In one of the spellings the second atom stands right behind the first. -/
def Follows (spellings : List Spelling) (a b : Occurrence) : Prop :=
  ∃ w ∈ spellings, [a, b] <:+: w

theorem pair_infix_append {a b : Occurrence} {u v : Spelling} (h : a ∉ u) :
    [a, b] <:+: u ++ v ↔ [a, b] <:+: v := by
  induction u with
  | nil => rfl
  | cons c u ih =>
    obtain ⟨hc, hu⟩ := not_or.1 (mt List.mem_cons.2 h)
    rw [List.cons_append, List.infix_cons_iff, ih hu]
    constructor
    · intro hor
      rcases hor with hbegins | hinside
      · exact absurd (List.cons_prefix_cons.1 hbegins).1 hc
      · exact hinside
    · exact Or.inr

theorem pair_infix_cons {a b : Occurrence} {v : Spelling} (h : a ∉ v) :
    [a, b] <:+: a :: v ↔ v.head? = some b := by
  rw [List.infix_cons_iff, List.cons_prefix_cons]
  constructor
  · intro hor
    rcases hor with ⟨-, t, rfl⟩ | hinside
    · rfl
    · exact absurd (hinside.subset (List.mem_cons_self ..)) h
  · intro hb
    obtain ⟨t, rfl⟩ := List.head?_eq_some_iff.1 hb
    exact Or.inl ⟨rfl, t, rfl⟩

/-- An atom that the first spellings lack is followed by what follows it in the second ones. -/
theorem follows_spliced {first second : List Spelling} {a : Occurrence} (hne : first ≠ [])
    (h : ∀ u ∈ first, a ∉ u) (b : Occurrence) :
    Follows (spliced first second) a b ↔ Follows second a b := by
  constructor
  · intro hsome
    obtain ⟨w, hw, hab⟩ := hsome
    obtain ⟨u, hu, v, hv, rfl⟩ := mem_spliced.1 hw
    exact ⟨v, hv, (pair_infix_append (h u hu)).1 hab⟩
  · intro hsome
    obtain ⟨v, hv, hab⟩ := hsome
    obtain ⟨u, hu⟩ := List.exists_mem_of_ne_nil _ hne
    exact ⟨u ++ v, mem_spliced.2 ⟨u, hu, v, hv, rfl⟩, (pair_infix_append (h u hu)).2 hab⟩

/-- An atom that stands nowhere behind is followed by what begins the spellings behind it. -/
theorem follows_spliced_singleton {behind : List Spelling} {a : Occurrence}
    (h : ∀ v ∈ behind, a ∉ v) (b : Occurrence) :
    Follows (spliced [[a]] behind) a b ↔ Begins behind b := by
  constructor
  · intro hsome
    obtain ⟨w, hw, hab⟩ := hsome
    obtain ⟨u, hu, v, hv, rfl⟩ := mem_spliced.1 hw
    obtain rfl := List.mem_singleton.1 hu
    exact ⟨v, hv, (pair_infix_cons (h v hv)).1 hab⟩
  · intro hsome
    obtain ⟨v, hv, hb⟩ := hsome
    exact ⟨a :: v, mem_spliced.2 ⟨[a], List.mem_singleton.2 rfl, v, hv, rfl⟩,
      (pair_infix_cons (h v hv)).2 hb⟩

/-- Leaving a group out does not change what follows an atom of the group. -/
theorem follows_spliced_absent {first behind : List Spelling} {a : Occurrence}
    (h : ∀ v ∈ behind, a ∉ v) (b : Occurrence) :
    Follows (spliced ([] :: first) behind) a b ↔ Follows (spliced first behind) a b := by
  constructor
  · intro hsome
    obtain ⟨w, hw, hab⟩ := hsome
    obtain ⟨u, hu, v, hv, rfl⟩ := mem_spliced.1 hw
    rcases List.mem_cons.1 hu with rfl | hu
    · exact absurd (hab.subset (List.mem_cons_self ..)) (h v hv)
    · exact ⟨u ++ v, mem_spliced.2 ⟨u, hu, v, hv, rfl⟩, hab⟩
  · intro hsome
    obtain ⟨w, hw, hab⟩ := hsome
    obtain ⟨u, hu, v, hv, rfl⟩ := mem_spliced.1 hw
    exact ⟨u ++ v, mem_spliced.2 ⟨u, List.mem_cons_of_mem _ hu, v, hv, rfl⟩, hab⟩

/-- What comes first in a sequence that stands before the given atoms. -/
def Segments.firstsBefore (place : Nat) (segments : Segments) (next : List Occurrence) :
    List Occurrence :=
  firsts place segments ++ if (heads segments).empty then next else []

mutual

/-- The captures of a segment, in the order of the template, each with the atoms that can follow it,
given what can follow the segment. -/
def Segment.followers (place : Nat) (next : List Occurrence) :
    Segment → List (Occurrence × List Occurrence)
  | .capture name _ offset => [(⟨place, .capture name offset⟩, next)]
  | .group inner => Segments.followers place next inner
  | .literal _ | .choice _ | .bare => []

def Segments.followers (place : Nat) (next : List Occurrence) :
    Segments → List (Occurrence × List Occurrence)
  | [] => []
  | segment :: rest =>
    segment.followers place (Segments.firstsBefore (place + segment.width) rest next) ++
      Segments.followers (place + segment.width) next rest

end

namespace Segments

/-- What follows a sequence in every context: the atoms that begin what stands behind it, all of
them at places behind its own. -/
structure IsNext (place : Nat) (next : List Occurrence) (behind : List Spelling) : Prop where
  ne_nil : behind ≠ []
  mem_iff : ∀ x, x ∈ next ↔ Begins behind x
  le_place : ∀ v ∈ behind, ∀ x ∈ v, place ≤ x.place
  pairwise : next.Pairwise (·.place < ·.place)

theorem IsNext.not_mem {place : Nat} {next : List Occurrence} {behind : List Spelling}
    (h : IsNext place next behind) {a : Occurrence} (ha : a.place < place) :
    ∀ v ∈ behind, a ∉ v := by
  intro v hv hmem
  have := h.le_place v hv a hmem
  omega

theorem IsNext.place_le_of_mem {place : Nat} {next : List Occurrence} {behind : List Spelling}
    (h : IsNext place next behind) {x : Occurrence} (hx : x ∈ next) : place ≤ x.place := by
  obtain ⟨v, hv, hx⟩ := (h.mem_iff x).1 hx
  exact h.le_place v hv x (List.mem_of_mem_head? hx)

theorem IsNext.firstsBefore {place : Nat} {segments : Segments} {next : List Occurrence}
    {behind : List Spelling} (hoptions : HasOptions segments)
    (h : IsNext (place + width segments) next behind) :
    IsNext place (firstsBefore place segments next)
      (spliced (spellings place segments) behind) where
  ne_nil := by
    obtain ⟨u, hu⟩ := List.exists_mem_of_ne_nil _ (spellings_ne_nil hoptions place)
    obtain ⟨v, hv⟩ := List.exists_mem_of_ne_nil _ h.ne_nil
    exact List.ne_nil_of_mem (mem_spliced.2 ⟨u, hu, v, hv, rfl⟩)
  mem_iff x := by
    rw [Segments.firstsBefore, List.mem_append, begins_spliced h.ne_nil, nil_mem_spellings,
      mem_firsts hoptions, ← h.mem_iff]
    by_cases hempty : (heads segments).empty = true <;> simp [hempty]
  le_place w hw x hx := by
    obtain ⟨u, hu, v, hv, rfl⟩ := mem_spliced.1 hw
    rcases List.mem_append.1 hx with hx | hx
    · exact (place_of_mem_spellings hu hx).1
    · have := h.le_place v hv x hx
      omega
  pairwise := by
    rw [Segments.firstsBefore, List.pairwise_append]
    refine ⟨pairwise_firsts hoptions place, by split <;> simp [h.pairwise], ?_⟩
    intro x hx y hy
    obtain ⟨u, hu, hx⟩ := (mem_firsts hoptions place x).1 hx
    have hbefore := place_of_mem_spellings hu (List.mem_of_mem_head? hx)
    split at hy
    · have := h.place_le_of_mem hy
      omega
    · simp at hy

/-- The followers of a capture are the atoms that stand right behind it in some spelling of the
sequence and what follows it, in the order of the template. -/
theorem mem_followers {segments : Segments} (hoptions : HasOptions segments) {place : Nat}
    {next : List Occurrence} {behind : List Spelling}
    (hnext : IsNext (place + width segments) next behind)
    {a : Occurrence} {l : List Occurrence} (ha : (a, l) ∈ followers place next segments) :
    (place ≤ a.place ∧ a.place < place + width segments) ∧
      l.Pairwise (·.place < ·.place) ∧
      ∀ b, b ∈ l ↔ Follows (spliced (spellings place segments) behind) a b := by
  induction segments using nestedInduction generalizing place next behind with
  | nil => simp [followers] at ha
  | cons segment rest hinner ih =>
    obtain ⟨hsegment, hrest⟩ := hasOptions_cons.1 hoptions
    rw [width, ← Nat.add_assoc] at hnext
    have hbehind := hnext.firstsBefore hrest
    rw [followers, List.mem_append] at ha
    rw [spellings, spliced_assoc]
    rcases ha with ha | ha
    · cases segment with
      | capture name stops offset =>
        rw [Segment.followers, List.mem_singleton] at ha
        obtain ⟨rfl, rfl⟩ := Prod.mk.inj ha
        have hlater : place < place + 1 := Nat.lt_succ_self place
        refine ⟨⟨Nat.le_refl _, ?_⟩, hbehind.pairwise, ?_⟩
        · simp only [width, Segment.width]
          omega
        · intro b
          rw [hbehind.mem_iff]
          exact (follows_spliced_singleton (hbehind.not_mem hlater) b).symm
      | group inner =>
        obtain ⟨hplace, hsorted, hfollows⟩ := hinner inner rfl (hasOptions_group.1 hsegment) hbehind ha
        refine ⟨⟨hplace.1, ?_⟩, hsorted, ?_⟩
        · have := hplace.2
          simp only [width, Segment.width]
          omega
        · intro b
          rw [hfollows]
          exact (follows_spliced_absent (hbehind.not_mem hplace.2) b).symm
      | literal _ | choice _ | bare => simp [Segment.followers] at ha
    · obtain ⟨hplace, hsorted, hfollows⟩ := ih hrest hnext ha
      have hsingle : spellings place [segment] = segment.spellings place := by
        simp [spellings, spliced]
      refine ⟨⟨by omega, by rw [width]; omega⟩, hsorted, ?_⟩
      intro b
      rw [hfollows, ← hsingle, follows_spliced (spellings_ne_nil hsegment place)]
      intro u hu hmem
      have := place_of_mem_spellings hu hmem
      simp only [width, Nat.add_zero] at this
      omega

theorem exists_mem_followers {segments : Segments} {place : Nat} (next : List Occurrence)
    {w : Spelling} (hw : w ∈ spellings place segments) {a : Occurrence} (ha : a ∈ w)
    (hcapture : a.atom.isCapture = true) : ∃ l, (a, l) ∈ followers place next segments := by
  induction segments using nestedInduction generalizing place next w with
  | nil =>
    rw [spellings, List.mem_singleton] at hw
    simp [hw] at ha
  | cons segment rest hinner ih =>
    obtain ⟨u, hu, v, hv, rfl⟩ := mem_spliced.1 hw
    rw [followers]
    rcases List.mem_append.1 ha with ha | ha
    · cases segment with
      | capture name stops offset =>
        obtain rfl := List.mem_singleton.1 hu
        obtain rfl := List.mem_singleton.1 ha
        exact ⟨_, List.mem_append_left _ (List.mem_singleton.2 rfl)⟩
      | group inner =>
        rcases List.mem_cons.1 hu with rfl | hu
        · simp at ha
        · obtain ⟨l, hl⟩ := hinner inner rfl (firstsBefore (place + width inner) rest next) hu ha
          exact ⟨l, List.mem_append_left _ hl⟩
      | literal text =>
        obtain rfl := List.mem_singleton.1 hu
        simp [List.mem_singleton.1 ha, Atom.isCapture] at hcapture
      | choice options =>
        rcases mem_optionSpellings hu with rfl | ⟨option, _, i, _, rfl⟩
        · simp at ha
        · simp [List.mem_singleton.1 ha, Atom.isCapture] at hcapture
      | bare =>
        obtain rfl := List.mem_singleton.1 hu
        simp at ha
    · obtain ⟨l, hl⟩ := ih next hv ha
      exact ⟨l, List.mem_append_right _ hl⟩

theorem offsets_followers (segments : Segments) (place : Nat) (next : List Occurrence) :
    (followers place next segments).filterMap (·.1.atom.offset?) =
      (leaves segments).filterMap Segment.captureOffset? := by
  induction segments using nestedInduction generalizing place next with
  | nil => rfl
  | cons segment rest hinner ih =>
    rw [followers, leaves, List.filterMap_append, List.filterMap_append, ih]
    apply congrArg (· ++ _)
    cases segment with
    | group inner => exact hinner inner rfl place _
    | literal _ | capture _ _ _ | choice _ | bare => rfl

/-- Behind a whole template there is nothing. -/
theorem isNext_nil (place : Nat) : IsNext place [] [[]] where
  ne_nil := by simp
  mem_iff x := by simp [Begins]
  le_place v hv x hx := by
    obtain rfl := List.mem_singleton.1 hv
    simp at hx
  pairwise := List.Pairwise.nil

/-- In a whole template, the followers of a capture are what follows it in the spellings. -/
theorem mem_followers_iff {segments : Segments} (hoptions : HasOptions segments) {a : Occurrence}
    {l : List Occurrence} (h : (a, l) ∈ followers 0 [] segments) :
    l.Pairwise (·.place < ·.place) ∧ ∀ b, b ∈ l ↔ Follows (spellings 0 segments) a b := by
  have hwhole : spliced (spellings 0 segments) [[]] = spellings 0 segments := by
    simp [spliced]
  obtain ⟨-, hsorted, hfollows⟩ := mem_followers hoptions (isNext_nil _) h
  exact ⟨hsorted, hwhole ▸ hfollows⟩

theorem follows_iff {segments : Segments} (hoptions : HasOptions segments) {a : Occurrence}
    (ha : a.atom.isCapture = true) (b : Occurrence) :
    Follows (spellings 0 segments) a b ↔ ∃ l, (a, l) ∈ followers 0 [] segments ∧ b ∈ l := by
  constructor
  · intro hsome
    obtain ⟨w, hw, hab⟩ := hsome
    obtain ⟨l, hl⟩ := exists_mem_followers [] hw (hab.subset (List.mem_cons_self ..)) ha
    exact ⟨l, hl, ((mem_followers_iff hoptions hl).2 b).2 ⟨w, hw, hab⟩⟩
  · intro hsome
    obtain ⟨l, hl, hb⟩ := hsome
    exact ((mem_followers_iff hoptions hl).2 b).1 hb

end Segments

end DsnBinding
