import DsnBinding.Proofs.Template.Outline
import DsnBinding.Segment.Heads

/-!
What a template can spell. A choice spells one of its options and a group its contents or nothing,
so that a sequence has finitely many spellings, each a list of atoms: texts and captures, without
the empty options. Every literal, option and capture has a place in the template, which its
occurrences in the spellings remember. The heads of a sequence are exactly what comes first in its
spellings.
-/
namespace DsnBinding

inductive Atom where
  /-- A literal or an option that is not empty. -/
  | text (text : Text)
  | capture (name : Text) (offset : Nat)
  deriving Repr, DecidableEq

def Atom.isCapture : Atom → Bool
  | .text _ => false
  | .capture .. => true

def Atom.text? : Atom → Option Text
  | .text t => some t
  | .capture .. => none

theorem Atom.text?_eq_some {atom : Atom} {t : Text} : atom.text? = some t ↔ atom = .text t := by
  cases atom <;> simp [Atom.text?]

def Atom.offset? : Atom → Option Nat
  | .text _ => none
  | .capture _ offset => some offset

structure Occurrence where
  place : Nat
  atom : Atom
  deriving Repr, DecidableEq

abbrev Spelling := List Occurrence

/-- The spellings of a choice whose options stand at consecutive places. -/
def optionSpellings (place : Nat) : List Text → List Spelling
  | [] => []
  | option :: rest =>
    (if option.isEmpty then [] else [⟨place, .text option⟩]) :: optionSpellings (place + 1) rest

mutual

def Segment.width : Segment → Nat
  | .literal _ | .capture .. => 1
  | .choice options => options.length
  | .group inner => Segments.width inner
  | .bare => 0

def Segments.width : Segments → Nat
  | [] => 0
  | segment :: rest => segment.width + Segments.width rest

end

/-- Every first spelling followed by every second one. -/
def spliced (first second : List Spelling) : List Spelling :=
  first.flatMap fun u => second.map (u ++ ·)

mutual

def Segment.spellings (place : Nat) : Segment → List Spelling
  | .literal text => [[⟨place, .text text⟩]]
  | .capture name _ offset => [[⟨place, .capture name offset⟩]]
  | .choice options => optionSpellings place options
  | .group inner => [] :: Segments.spellings place inner
  | .bare => [[]]

def Segments.spellings (place : Nat) : Segments → List Spelling
  | [] => [[]]
  | segment :: rest =>
    spliced (segment.spellings place) (Segments.spellings (place + segment.width) rest)

end

mutual

/-- What can come first in the spellings of a segment, in the order of the template. -/
def Segment.firsts (place : Nat) : Segment → List Occurrence
  | .literal text => [⟨place, .text text⟩]
  | .capture name _ offset => [⟨place, .capture name offset⟩]
  | .choice options => (optionSpellings place options).flatten
  | .group inner => Segments.firsts place inner
  | .bare => []

def Segments.firsts (place : Nat) : Segments → List Occurrence
  | [] => []
  | segment :: rest =>
    segment.firsts place ++
      if segment.heads.empty then Segments.firsts (place + segment.width) rest else []

end

theorem hasOptions_outline {template : Text} {segments : Segments}
    (h : Template.outline template = .ok segments) : Segments.HasOptions segments := by
  intro options hmem
  rcases Template.leaf_outline h hmem with ⟨text, heq, _⟩ | ⟨name, offset, heq⟩ | ⟨options', heq, hne⟩
  · cases heq
  · cases heq
  · obtain rfl := Segment.choice.inj heq
    exact hne

theorem mem_spliced {first second : List Spelling} {w : Spelling} :
    w ∈ spliced first second ↔ ∃ u ∈ first, ∃ v ∈ second, w = u ++ v := by
  simp only [spliced, List.mem_flatMap, List.mem_map]
  constructor
  · intro hsome
    obtain ⟨u, hu, v, hv, rfl⟩ := hsome
    exact ⟨u, hu, v, hv, rfl⟩
  · intro hsome
    obtain ⟨u, hu, v, hv, rfl⟩ := hsome
    exact ⟨u, hu, v, hv, rfl⟩

theorem spliced_assoc (a b c : List Spelling) :
    spliced (spliced a b) c = spliced a (spliced b c) := by
  simp [spliced, List.flatMap_assoc, List.map_flatMap, List.flatMap_map, Function.comp_def]

/-- One of the spellings begins with the atom. -/
def Begins (spellings : List Spelling) (x : Occurrence) : Prop :=
  ∃ w ∈ spellings, w.head? = some x

/-- A first spelling begins the whole, unless it is empty. -/
theorem begins_spliced {first second : List Spelling} (h : second ≠ []) (x : Occurrence) :
    Begins (spliced first second) x ↔ Begins first x ∨ [] ∈ first ∧ Begins second x := by
  constructor
  · intro hsome
    obtain ⟨w, hw, hx⟩ := hsome
    obtain ⟨u, hu, v, hv, rfl⟩ := mem_spliced.1 hw
    cases u with
    | nil => exact Or.inr ⟨hu, v, hv, hx⟩
    | cons y u => exact Or.inl ⟨y :: u, hu, hx⟩
  · intro hor
    rcases hor with ⟨u, hu, hx⟩ | ⟨hnil, v, hv, hx⟩
    · obtain ⟨v, hv⟩ := List.exists_mem_of_ne_nil _ h
      exact ⟨u ++ v, mem_spliced.2 ⟨u, hu, v, hv, rfl⟩, by simp [List.head?_append, hx]⟩
    · exact ⟨v, mem_spliced.2 ⟨[], hnil, v, hv, rfl⟩, hx⟩

section Options

variable {place : Nat} {options : List Text}

theorem mem_optionSpellings {w : Spelling} (h : w ∈ optionSpellings place options) :
    w = [] ∨ ∃ option, option ≠ [] ∧ ∃ i < options.length, w = [⟨place + i, .text option⟩] := by
  induction options generalizing place with
  | nil => simp [optionSpellings] at h
  | cons option rest ih =>
    rcases List.mem_cons.1 h with rfl | h
    · by_cases he : option = []
      · exact Or.inl (by simp [he])
      · exact Or.inr ⟨option, he, 0, by simp, by simp [he]⟩
    · rcases ih h with hnil | ⟨option', hne, i, hi, rfl⟩
      · exact Or.inl hnil
      · refine Or.inr ⟨option', hne, i + 1, by simpa using hi, ?_⟩
        simp only [Nat.add_assoc, Nat.add_comm 1 i]

theorem nil_mem_optionSpellings : [] ∈ optionSpellings place options ↔ [] ∈ options := by
  induction options generalizing place with
  | nil => simp [optionSpellings]
  | cons option rest ih => cases option <;> simp [optionSpellings, ih]

theorem filterMap_flatten_optionSpellings :
    (optionSpellings place options).flatten.filterMap (·.atom.text?) =
      options.filter (!·.isEmpty) := by
  induction options generalizing place with
  | nil => rfl
  | cons option rest ih =>
    rw [optionSpellings, List.flatten_cons, List.filterMap_append, ih]
    cases option <;> simp [Atom.text?]

theorem isCapture_flatten_optionSpellings :
    (optionSpellings place options).flatten.any (·.atom.isCapture) = false := by
  induction options generalizing place with
  | nil => rfl
  | cons option rest ih =>
    rw [optionSpellings, List.flatten_cons, List.any_append, ih]
    cases option <;> simp [Atom.isCapture]

theorem optionSpellings_ne_nil (h : options ≠ []) : optionSpellings place options ≠ [] := by
  cases options with
  | nil => exact absurd rfl h
  | cons option rest => simp [optionSpellings]

theorem mem_flatten_optionSpellings {x : Occurrence} :
    x ∈ (optionSpellings place options).flatten ↔ Begins (optionSpellings place options) x := by
  rw [List.mem_flatten]
  constructor
  · intro hsome
    obtain ⟨w, hw, hx⟩ := hsome
    rcases mem_optionSpellings hw with rfl | ⟨option, _, i, _, rfl⟩
    · simp at hx
    · exact ⟨_, hw, by simp [List.mem_singleton.1 hx]⟩
  · intro hsome
    obtain ⟨w, hw, hx⟩ := hsome
    exact ⟨w, hw, List.mem_of_mem_head? hx⟩

theorem pairwise_flatten_optionSpellings :
    (optionSpellings place options).flatten.Pairwise (·.place < ·.place) := by
  induction options generalizing place with
  | nil => exact List.Pairwise.nil
  | cons option rest ih =>
    rw [optionSpellings, List.flatten_cons, List.pairwise_append]
    refine ⟨by split <;> simp, ih, ?_⟩
    intro x hx y hy
    obtain ⟨w, hw, hy⟩ := List.mem_flatten.1 hy
    have hlater : place + 1 ≤ y.place := by
      rcases mem_optionSpellings hw with rfl | ⟨_, _, i, _, rfl⟩
      · simp at hy
      · rw [List.mem_singleton.1 hy]
        exact Nat.le_add_right (place + 1) i
    split at hx
    · simp at hx
    · rw [List.mem_singleton.1 hx]
      exact hlater

end Options

namespace Segments

theorem spellings_ne_nil {segments : Segments} (h : HasOptions segments) (place : Nat) :
    spellings place segments ≠ [] := by
  induction segments using nestedInduction generalizing place with
  | nil => simp [spellings]
  | cons segment rest _ ih =>
    obtain ⟨hsegment, hrest⟩ := hasOptions_cons.1 h
    have hfirst : segment.spellings place ≠ [] := by
      cases segment with
      | choice options => exact optionSpellings_ne_nil (hasOptions_choice.1 hsegment)
      | literal _ | capture _ _ _ | group _ | bare => simp [Segment.spellings]
    obtain ⟨u, hu⟩ := List.exists_mem_of_ne_nil _ hfirst
    obtain ⟨v, hv⟩ := List.exists_mem_of_ne_nil _ (ih hrest (place + segment.width))
    exact List.ne_nil_of_mem (mem_spliced.2 ⟨u, hu, v, hv, rfl⟩)

end Segments

theorem Segment.nil_mem_spellings (segment : Segment) (place : Nat) :
    [] ∈ segment.spellings place ↔ segment.heads.empty = true := by
  cases segment with
  | choice options =>
    simp only [Segment.spellings, nil_mem_optionSpellings, Segment.heads, List.any_eq_true]
    constructor
    · intro h
      exact ⟨[], h, rfl⟩
    · intro hsome
      obtain ⟨option, hmem, hempty⟩ := hsome
      exact List.isEmpty_iff.1 hempty ▸ hmem
  | literal _ | capture _ _ _ | group _ | bare =>
    simp [Segment.spellings, Segment.heads, Heads.nothing]

namespace Segments

/-- The heads of a sequence can be empty if the sequence can spell nothing. -/
theorem nil_mem_spellings (segments : Segments) (place : Nat) :
    [] ∈ spellings place segments ↔ (heads segments).empty = true := by
  induction segments generalizing place with
  | nil => simp [spellings, heads, Heads.nothing]
  | cons segment rest ih =>
    simp only [spellings, mem_spliced, heads, Heads.followedBy, List.nil_eq_append_iff]
    rw [apply_ite Heads.empty]
    constructor
    · intro hsome
      obtain ⟨u, hu, v, hv, rfl, rfl⟩ := hsome
      rw [if_pos ((segment.nil_mem_spellings place).1 hu)]
      exact (ih _).1 hv
    · intro h
      split at h
      · rename_i hsegment
        exact ⟨[], (segment.nil_mem_spellings place).2 hsegment, [], (ih _).2 h, rfl, rfl⟩
      · contradiction

theorem mem_firsts {segments : Segments} (h : HasOptions segments) (place : Nat) (x : Occurrence) :
    x ∈ firsts place segments ↔ Begins (spellings place segments) x := by
  induction segments using nestedInduction generalizing place with
  | nil => simp [firsts, spellings, Begins]
  | cons segment rest hinner ih =>
    obtain ⟨hsegment, hrest⟩ := hasOptions_cons.1 h
    have hfirst : x ∈ segment.firsts place ↔ Begins (segment.spellings place) x := by
      cases segment with
      | choice options => exact mem_flatten_optionSpellings
      | group inner =>
        simpa [Segment.firsts, Segment.spellings, Begins] using
          hinner inner rfl (hasOptions_group.1 hsegment) place
      | literal _ | capture _ _ _ | bare =>
        simp [Segment.firsts, Segment.spellings, Begins, eq_comm]
    rw [firsts, spellings, begins_spliced (spellings_ne_nil hrest _), List.mem_append, hfirst,
      segment.nil_mem_spellings, ← ih hrest]
    by_cases hempty : segment.heads.empty = true <;> simp [hempty]

/-- The atoms of a spelling stand within the places of the sequence. -/
theorem place_of_mem_spellings {segments : Segments} {place : Nat} {w : Spelling} {x : Occurrence}
    (hw : w ∈ spellings place segments) (hx : x ∈ w) :
    place ≤ x.place ∧ x.place < place + width segments := by
  induction segments using nestedInduction generalizing place w with
  | nil =>
    rw [spellings, List.mem_singleton] at hw
    simp [hw] at hx
  | cons segment rest hinner ih =>
    have hfirst : ∀ u ∈ segment.spellings place, x ∈ u →
        place ≤ x.place ∧ x.place < place + segment.width := by
      intro u hu hx
      cases segment with
      | choice options =>
        rcases mem_optionSpellings hu with rfl | ⟨option, _, i, hi, rfl⟩
        · simp at hx
        · rw [List.mem_singleton.1 hx]
          exact ⟨Nat.le_add_right place i, Nat.add_lt_add_left hi place⟩
      | group inner =>
        rcases List.mem_cons.1 hu with rfl | hu
        · simp at hx
        · exact hinner inner rfl hu hx
      | literal _ | capture _ _ _ =>
        rw [Segment.spellings, List.mem_singleton] at hu
        rw [hu, List.mem_singleton] at hx
        simp [hx, Segment.width]
      | bare =>
        rw [Segment.spellings, List.mem_singleton] at hu
        simp [hu] at hx
    obtain ⟨u, hu, v, hv, rfl⟩ := mem_spliced.1 hw
    rw [width]
    rcases List.mem_append.1 hx with hx | hx
    · have := hfirst u hu hx
      omega
    · have := ih hv hx
      omega

theorem pairwise_firsts {segments : Segments} (h : HasOptions segments) (place : Nat) :
    (firsts place segments).Pairwise (·.place < ·.place) := by
  induction segments using nestedInduction generalizing place with
  | nil => exact List.Pairwise.nil
  | cons segment rest hinner ih =>
    obtain ⟨hsegment, hrest⟩ := hasOptions_cons.1 h
    have hfirst : (segment.firsts place).Pairwise (·.place < ·.place) := by
      cases segment with
      | choice options => exact pairwise_flatten_optionSpellings
      | group inner => exact hinner inner rfl (hasOptions_group.1 hsegment) place
      | literal _ | capture _ _ _ | bare => simp [Segment.firsts]
    rw [firsts, List.pairwise_append]
    refine ⟨hfirst, by split <;> simp [ih hrest], ?_⟩
    intro x hx y hy
    split at hy
    · obtain ⟨v, hv, hy⟩ := (mem_firsts hrest _ y).1 hy
      have hafter := place_of_mem_spellings hv (List.mem_of_mem_head? hy)
      have hsingle : x ∈ firsts place [segment] := by simp [firsts, hx]
      obtain ⟨u, hu, hx⟩ := (mem_firsts hsegment place x).1 hsingle
      have hbefore := place_of_mem_spellings hu (List.mem_of_mem_head? hx)
      simp only [width, Nat.add_zero] at hbefore
      omega
    · simp at hy

/-- The heads of a sequence are the texts, and whether there is a capture, among what comes
first. -/
theorem heads_eq (segments : Segments) (place : Nat) :
    heads segments = ⟨(firsts place segments).filterMap (·.atom.text?),
      (firsts place segments).any (·.atom.isCapture), (heads segments).empty⟩ := by
  induction segments using nestedInduction generalizing place with
  | nil => rfl
  | cons segment rest hinner ih =>
    have hfirst : segment.heads = ⟨(segment.firsts place).filterMap (·.atom.text?),
        (segment.firsts place).any (·.atom.isCapture), segment.heads.empty⟩ := by
      cases segment with
      | choice options =>
        simp only [Segment.heads, Segment.firsts, filterMap_flatten_optionSpellings,
          isCapture_flatten_optionSpellings]
      | group inner =>
        simp only [Segment.heads, Segment.firsts]
        rw [hinner inner rfl place]
      | literal _ | capture _ _ _ | bare => rfl
    rw [heads, firsts, hfirst, Heads.followedBy]
    cases segment.heads.empty with
    | false => simp
    | true =>
      simp only [if_true, List.filterMap_append, List.any_append]
      rw [ih (place + segment.width)]

end Segments

end DsnBinding
