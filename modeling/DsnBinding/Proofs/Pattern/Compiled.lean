import DsnBinding.Proofs.Pattern.Stops

/-!
What holds of every compiled pattern. It is the outline of its template with stops, and giving it
stops again changes nothing, so that what is known of the leaves of an outline is known of its own.
-/
namespace DsnBinding

theorem Segment.withStops_capture_eq_self {name : Text} {stops : List Text} {offset : Nat}
    {next : Heads} (h : (Segment.capture name stops offset).withStops next =
      .ok (.capture name stops offset)) :
    next.capture = false ∧ stops = next.literals.eraseDups := by
  obtain ⟨hcapture, heq⟩ := withStops_capture_eq_ok.1 h
  exact ⟨hcapture, (Segment.capture.inj heq).2.1⟩

theorem Segment.withStops_group_eq_self {inner : Segments} {next : Heads}
    (h : (Segment.group inner).withStops next = .ok (.group inner)) :
    Segments.withStops next inner = .ok inner := by
  obtain ⟨inner', hinner, heq⟩ := withStops_group_eq_ok.1 h
  obtain rfl := Segment.group.inj heq
  exact hinner

namespace Segments

theorem withoutStops_eq_map (segments : Segments) :
    withoutStops segments = segments.map Segment.withoutStops := by
  induction segments with
  | nil => rfl
  | cons segment rest ih => rw [withoutStops, ih, List.map_cons]

theorem heads_withoutStops (segments : Segments) :
    heads (withoutStops segments) = heads segments := by
  induction segments using nestedInduction with
  | nil => rfl
  | cons segment rest hinner ih =>
    have hfirst : segment.withoutStops.heads = segment.heads := by
      cases segment with
      | group inner => simp only [Segment.withoutStops, Segment.heads, hinner inner rfl]
      | literal _ | capture _ _ _ | choice _ | bare => rfl
    rw [withoutStops, heads, heads, hfirst, ih]

theorem names_withoutStops (segments : Segments) :
    names (withoutStops segments) = names segments := by
  induction segments using nestedInduction with
  | nil => rfl
  | cons segment rest hinner ih =>
    have hfirst : segment.withoutStops.names = segment.names := by
      cases segment with
      | group inner => exact hinner inner rfl
      | literal _ | capture _ _ _ | choice _ | bare => rfl
    rw [withoutStops, names, names, hfirst, ih]

theorem heads_withStops {segments segments' : Segments} {next : Heads}
    (h : withStops next segments = .ok segments') : heads segments' = heads segments := by
  rw [← heads_withoutStops, withoutStops_withStops h, heads_withoutStops]

theorem names_withStops {segments segments' : Segments} {next : Heads}
    (h : withStops next segments = .ok segments') : names segments' = names segments := by
  rw [← names_withoutStops, withoutStops_withStops h, names_withoutStops]

theorem length_withStops {segments segments' : Segments} {next : Heads}
    (h : withStops next segments = .ok segments') : segments'.length = segments.length := by
  have hshape := congrArg List.length (withoutStops_withStops h)
  simpa only [withoutStops_eq_map, List.length_map] using hshape

/-- A sequence followed by another gets its stops with the heads of the other one. -/
theorem withStops_append_eq_ok {a b segments : Segments} {next : Heads} :
    withStops next (a ++ b) = .ok segments ↔
      ∃ a' b', withStops ((heads b).followedBy next) a = .ok a' ∧ withStops next b = .ok b' ∧
        segments = a' ++ b' := by
  induction a generalizing segments with
  | nil => simp [withStops]
  | cons segment a ih =>
    simp only [List.cons_append, withStops_cons_eq_ok, ih, heads_append, Heads.followedBy_assoc]
    constructor
    · intro hsome
      obtain ⟨segment', _, hsegment, ⟨a', b', ha, hb, rfl⟩, rfl⟩ := hsome
      exact ⟨segment' :: a', b', ⟨segment', a', hsegment, ha, rfl⟩, hb, rfl⟩
    · intro hsome
      obtain ⟨_, b', ⟨segment', a', hsegment, ha, rfl⟩, hb, rfl⟩ := hsome
      exact ⟨segment', a' ++ b', hsegment, ⟨a', b', ha, hb, rfl⟩, rfl⟩

theorem withStops_withoutStops (segments : Segments) (next : Heads) :
    withStops next (withoutStops segments) = withStops next segments := by
  induction segments using nestedInduction generalizing next with
  | nil => rfl
  | cons segment rest hinner ih =>
    have hfirst : ∀ next : Heads, segment.withoutStops.withStops next = segment.withStops next := by
      intro next
      cases segment with
      | group inner => exact congrArg (Except.map Segment.group) (hinner inner rfl next)
      | literal _ | capture _ _ _ | choice _ | bare => rfl
    rw [withoutStops, withStops, withStops, heads_withoutStops, hfirst, ih]

theorem withStops_eq_self {segments segments' : Segments} {next : Heads}
    (h : withStops next segments = .ok segments') : withStops next segments' = .ok segments' := by
  rw [← withStops_withoutStops, withoutStops_withStops h, withStops_withoutStops, h]

theorem withStops_cons_eq_self {segment : Segment} {rest : Segments} {next : Heads}
    (h : withStops next (segment :: rest) = .ok (segment :: rest)) :
    segment.withStops ((heads rest).followedBy next) = .ok segment ∧
      withStops next rest = .ok rest := by
  obtain ⟨segment', rest', hsegment, hrest, heq⟩ := withStops_cons_eq_ok.1 h
  obtain ⟨rfl, rfl⟩ := List.cons.inj heq
  exact ⟨hsegment, hrest⟩

theorem leaves_withoutStops (segments : Segments) :
    leaves (withoutStops segments) = (leaves segments).map Segment.withoutStops := by
  induction segments using nestedInduction with
  | nil => rfl
  | cons segment rest hinner ih =>
    have hfirst : segment.withoutStops.leaves = segment.leaves.map Segment.withoutStops := by
      cases segment with
      | group inner => exact hinner inner rfl
      | literal _ | capture _ _ _ | choice _ | bare => rfl
    rw [withoutStops, leaves, leaves, hfirst, ih, List.map_append]

end Segments

namespace Pattern

/-- A compiled pattern is the outline of its template with the stops that belong to it. -/
theorem compile_eq_ok {template : Text} {p : Pattern} (h : compile template = .ok p) :
    p.template = template ∧ Template.outline template = .ok (Segments.withoutStops p.segments) ∧
      Segments.withStops Heads.nothing p.segments = .ok p.segments := by
  have houtline : ∃ segments, Template.outline template = .ok segments := by
    cases hsegments : Template.outline template with
    | error fault => simp [compile, segmentsOf, hsegments] at h
    | ok segments => exact ⟨segments, rfl⟩
  obtain ⟨segments, hsegments⟩ := houtline
  rw [compile_eq hsegments] at h
  cases hstops : Segments.withStops Heads.nothing segments with
  | error fault => simp [hstops] at h
  | ok segments' =>
    obtain rfl : ⟨template, segments'⟩ = p := by simpa [hstops] using h
    refine ⟨rfl, ?_, Segments.withStops_eq_self hstops⟩
    rw [Segments.withoutStops_withStops hstops, Segments.withoutStops_outline hsegments, hsegments]

/-- A leaf of a compiled pattern is a literal that is plain and not empty, a capture, or a choice
that has options. -/
theorem leaf_compile {template : Text} {p : Pattern} {leaf : Segment}
    (h : compile template = .ok p) (hleaf : leaf ∈ Segments.leaves p.segments) :
    (∃ text, leaf = .literal text ∧ text ≠ [] ∧ ∀ c ∈ text, Template.isPlain c = true) ∨
      (∃ name stops offset, leaf = .capture name stops offset) ∨
      ∃ options, leaf = .choice options ∧ options ≠ [] := by
  obtain ⟨-, houtline, -⟩ := compile_eq_ok h
  have hmem : leaf.withoutStops ∈ Segments.leaves (Segments.withoutStops p.segments) := by
    rw [Segments.leaves_withoutStops]
    exact List.mem_map_of_mem hleaf
  rcases Template.leaf_outline houtline hmem with ⟨text, heq, hplain⟩ | ⟨name, offset, heq⟩ |
    ⟨options, heq, hne⟩
  · cases leaf with
    | literal text' =>
      obtain rfl := Segment.literal.inj heq
      exact Or.inl ⟨text', rfl, hplain⟩
    | capture _ _ _ | choice _ | group _ | bare => cases heq
  · cases leaf with
    | capture name' stops offset' => exact Or.inr (Or.inl ⟨name', stops, offset', rfl⟩)
    | literal _ | choice _ | group _ | bare => cases heq
  · cases leaf with
    | choice options' =>
      obtain rfl := Segment.choice.inj heq
      exact Or.inr (Or.inr ⟨options', rfl, hne⟩)
    | literal _ | capture _ _ _ | group _ | bare => cases heq

theorem literal_compile {template text : Text} {p : Pattern} (h : compile template = .ok p)
    (hmem : Segment.literal text ∈ Segments.leaves p.segments) :
    text ≠ [] ∧ ∀ c ∈ text, Template.isPlain c = true := by
  rcases leaf_compile h hmem with ⟨text', heq, hplain⟩ | ⟨_, _, _, heq⟩ | ⟨_, heq, -⟩
  · obtain rfl := Segment.literal.inj heq
    exact hplain
  · cases heq
  · cases heq

theorem bare_not_mem_leaves {template : Text} {p : Pattern} (h : compile template = .ok p) :
    Segment.bare ∉ Segments.leaves p.segments := by
  intro hmem
  rcases leaf_compile h hmem with ⟨_, heq, -⟩ | ⟨_, _, _, heq⟩ | ⟨_, heq, -⟩ <;> cases heq

theorem hasOptions_compile {template : Text} {p : Pattern} (h : compile template = .ok p) :
    Segments.HasOptions p.segments := by
  intro options hmem
  rcases leaf_compile h hmem with ⟨_, heq, -⟩ | ⟨_, _, _, heq⟩ | ⟨options', heq, hne⟩
  · cases heq
  · cases heq
  · exact Segment.choice.inj heq ▸ hne

theorem question_not_mem_spelled {template text : Text} {p : Pattern} (h : compile template = .ok p)
    (hchoices : p.segments.IsChoiceless) (htext : text ∈ Segments.spelled p.segments) :
    '?' ∉ text := by
  intro hmem
  rcases Segments.mem_spelled.1 htext with hliteral | ⟨options, hoptions, -⟩
  · exact absurd ((literal_compile h hliteral).2 '?' hmem) (by decide)
  · exact hchoices options hoptions

end Pattern

end DsnBinding
