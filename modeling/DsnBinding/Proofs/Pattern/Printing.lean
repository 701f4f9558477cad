import DsnBinding.Proofs.Pattern.Compiled
import DsnBinding.Proofs.Template.Grammar

/-!
Segments can be written as a template again. What is written is read back as the same segments as
long as nothing in them runs together or reads as something else, which is so of the segments of
every compiled pattern. Where the captures stand is lost, and with it nothing that the stops depend
on.
-/
namespace DsnBinding

open Template

/-- How the options of a choice are written. A single option is written twice, since one without a
bar could be left out. -/
def printedOptions : List Text → Text
  | [option] => Text.joined ['|'] [option, option]
  | options => Text.joined ['|'] options

mutual

/-- A segment as a template has it. -/
def Segment.printed : Segment → Text
  | .literal text => text
  | .capture name _ _ => '$' :: name
  | .choice options => '(' :: printedOptions options ++ [')']
  | .group inner => '[' :: Segments.printed inner ++ [']']
  | .bare => []

def Segments.printed : Segments → Text
  | [] => []
  | segment :: rest => segment.printed ++ Segments.printed rest

end

/-- Two segments that do not run together if one is written behind the other. -/
def Segment.IsApart : Segment → Segment → Prop
  | .literal _, .literal _ => False
  | .capture .., .literal text => EndsBefore isNameChar text
  | _, _ => True

mutual

/-- A segment that reads as itself. -/
def Segment.IsPrintable : Segment → Prop
  | .literal text => text ≠ [] ∧ ∀ c ∈ text, isPlain c = true
  | .capture name _ _ => isIdentifier name = true
  | .choice options => options ≠ [] ∧ options.Nodup ∧
      ∀ option ∈ options, '|' ∉ option ∧ ∀ c ∈ option, isSpecial c = false
  | .group inner => inner ≠ [] ∧ Segments.IsPrintable inner
  | .bare => False

def Segments.IsPrintable : Segments → Prop
  | [] => True
  | segment :: rest => segment.IsPrintable ∧ (∀ next ∈ rest.head?, segment.IsApart next) ∧
      Segments.IsPrintable rest

end

mutual

/-- The items that a segment is written as. -/
def Segment.items : Segment → List Item
  | .literal text => text.map .plain
  | .capture name _ _ => [.capture name]
  | .choice options => [.choice (printedOptions options)]
  | .group inner => [.group (Segments.items inner)]
  | .bare => []

def Segments.items : Segments → List Item
  | [] => []
  | segment :: rest => segment.items ++ Segments.items rest

end

section Options

variable {options : List Text}

theorem exists_printedOptions (hne : options ≠ []) :
    ∃ first second others, printedOptions options = Text.joined ['|'] (first :: second :: others) ∧
      (first :: second :: others).eraseDups = options.eraseDups ∧
      ∀ option, option ∈ first :: second :: others ↔ option ∈ options := by
  obtain ⟨first, others, rfl⟩ := List.exists_cons_of_ne_nil hne
  cases others with
  | nil => exact ⟨first, first, [], rfl, by simp [List.eraseDups_cons], by simp⟩
  | cons second others => exact ⟨first, second, others, rfl, rfl, fun _ => Iff.rfl⟩

theorem joined_cons_cons (first second : Text) (others : List Text) :
    Text.joined ['|'] (first :: second :: others) =
      first ++ '|' :: Text.joined ['|'] (second :: others) := by
  rw [Text.joined, List.intercalate_cons_cons, List.append_assoc]
  rfl

theorem mem_joined {texts : List Text} {c : Char} (h : c ∈ Text.joined ['|'] texts) :
    c = '|' ∨ ∃ text ∈ texts, c ∈ text := by
  induction texts with
  | nil => cases h
  | cons first texts ih =>
    cases texts with
    | nil =>
      rw [Text.joined, List.intercalate_singleton] at h
      exact Or.inr ⟨first, List.mem_cons_self, h⟩
    | cons second texts =>
      rw [joined_cons_cons] at h
      rcases List.mem_append.1 h with h | h
      · exact Or.inr ⟨first, List.mem_cons_self, h⟩
      · rcases List.mem_cons.1 h with h | h
        · exact Or.inl h
        · rcases ih h with h | ⟨text, htext, h⟩
          · exact Or.inl h
          · exact Or.inr ⟨text, List.mem_cons_of_mem first htext, h⟩

theorem bar_mem_printedOptions (hne : options ≠ []) : '|' ∈ printedOptions options := by
  obtain ⟨first, second, others, heq, -⟩ := exists_printedOptions hne
  rw [heq, joined_cons_cons]
  simp

/-- The body that options are written as lists these options. -/
theorem options_printedOptions (hne : options ≠ []) (hnodup : options.Nodup)
    (hbars : ∀ option ∈ options, '|' ∉ option) :
    Item.options (printedOptions options) = options := by
  rw [Item.options, if_pos (bar_mem_printedOptions hne)]
  obtain ⟨first, second, others, heq, hdups, hmem⟩ := exists_printedOptions hne
  have hbars' : ∀ option ∈ first :: second :: others, '|' ∉ option :=
    fun option hoption => hbars option ((hmem option).1 hoption)
  rw [heq, Text.joined, List.splitOn_intercalate '|' hbars' (List.cons_ne_nil _ _), hdups,
    eraseDups_of_nodup hnodup]

theorem isSpecial_printedOptions (hne : options ≠ [])
    (hplain : ∀ option ∈ options, ∀ c ∈ option, isSpecial c = false) :
    ∀ c ∈ printedOptions options, isSpecial c = false := by
  intro c hc
  obtain ⟨first, second, others, heq, -, hmem⟩ := exists_printedOptions hne
  rw [heq] at hc
  rcases mem_joined hc with rfl | ⟨option, hoption, hc⟩
  · rfl
  · exact hplain option ((hmem option).1 hoption) c hc

end Options

namespace Segments

theorem mirrored_plains (run : Text) (items : List Item) :
    Item.mirrored (run.map .plain ++ items) = run.foldr withChar (Item.mirrored items) := by
  induction run with
  | nil => rfl
  | cons c run ih =>
    rw [List.map_cons, List.cons_append, Item.mirrored, ih]
    rfl

theorem isLiteral_head?_of_isApart {text : Text} {rest : Segments}
    (h : ∀ next ∈ rest.head?, (Segment.literal text).IsApart next) :
    ∀ first ∈ (withoutOffsets (withoutStops rest)).head?, first.isLiteral = false := by
  cases rest with
  | nil => exact nofun
  | cons next others =>
    refine isLiteral_head?_cons ?_ _
    have hapart := h next rfl
    cases next with
    | literal _ => exact hapart.elim
    | capture _ _ _ | choice _ | group _ | bare => rfl

/-- What is written behind a capture does not go on with its name. -/
theorem IsPrintable.endsBefore_printed {name : Text} {stops : List Text} {offset : Nat}
    {rest : Segments} (h : rest.IsPrintable)
    (hapart : ∀ next ∈ rest.head?, (Segment.capture name stops offset).IsApart next) :
    EndsBefore isNameChar rest.printed := by
  cases rest with
  | nil => exact endsBefore_nil isNameChar
  | cons next others =>
    have hnext := hapart next rfl
    cases next with
    | literal text =>
      obtain ⟨c, text, rfl⟩ := List.exists_cons_of_ne_nil h.1.1
      exact hnext
    | capture _ _ _ | choice _ | group _ => exact endsBefore_cons rfl _
    | bare => exact h.1.elim

theorem IsPrintable.spells {segments : Segments} (h : segments.IsPrintable) :
    Item.Spells segments.items segments.printed ∧
      Item.mirrored segments.items = withoutOffsets (withoutStops segments) := by
  induction segments using nestedInduction with
  | nil => exact ⟨.nil, rfl⟩
  | cons segment rest hinner ih =>
    obtain ⟨hsegment, hapart, hrest⟩ := h
    obtain ⟨hspells, hmirrored⟩ := ih hrest
    cases segment with
    | literal text =>
      obtain ⟨hne, hplain⟩ := hsegment
      refine ⟨hspells.plains hplain, ?_⟩
      have hhead := hmirrored ▸ isLiteral_head?_of_isApart hapart
      rw [items, Segment.items, mirrored_plains, foldr_withChar hne hhead, hmirrored]
      rfl
    | capture name stops offset =>
      have hend := hrest.endsBefore_printed hapart
      exact ⟨.capture hsegment hend hspells, congrArg _ hmirrored⟩
    | choice options =>
      obtain ⟨hne, hnodup, hoptions⟩ := hsegment
      have hbody : printedOptions options ≠ [] := List.ne_nil_of_mem (bar_mem_printedOptions hne)
      have hplain := isSpecial_printedOptions hne fun option hoption => (hoptions option hoption).2
      refine ⟨.choice hbody hplain hspells, ?_⟩
      have hlisted := options_printedOptions hne hnodup fun option hoption =>
        (hoptions option hoption).1
      show .choice (Item.options (printedOptions options)) :: Item.mirrored rest.items = _
      rw [hlisted, hmirrored]
      rfl
    | group inner =>
      obtain ⟨hne, hprintable⟩ := hsegment
      obtain ⟨hspells', hmirrored'⟩ := hinner inner rfl hprintable
      have hne' : items inner ≠ [] := by
        obtain ⟨first, others, rfl⟩ := List.exists_cons_of_ne_nil hne
        intro hnone
        rw [hnone] at hmirrored'
        cases hmirrored'
      refine ⟨?_, ?_⟩
      · rw [printed, Segment.printed, List.append_assoc]
        exact .group hne' hspells' hspells
      · show .group (Item.mirrored (items inner)) :: Item.mirrored rest.items = _
        rw [hmirrored, hmirrored']
        rfl
    | bare => exact hsegment.elim

theorem IsPrintable.exists_outline {segments : Segments} (h : segments.IsPrintable) :
    ∃ outlined, Template.outline segments.printed = .ok outlined ∧
      outlined.withoutOffsets = withoutOffsets (withoutStops segments) := by
  obtain ⟨hspells, hmirrored⟩ := h.spells
  obtain ⟨outlined, houtline, -, hmirrors, -⟩ := hspells.exists_outline (Or.inl rfl)
  exact ⟨outlined, houtline, hmirrors.trans hmirrored⟩

theorem IsPrintable.withChar {c : Char} {segments : Segments} (h : segments.IsPrintable)
    (hc : isPlain c = true) : (segments.withChar c).IsPrintable := by
  have hsingle : (Segment.literal [c]).IsPrintable :=
    ⟨List.cons_ne_nil c [], fun d hd => List.mem_singleton.1 hd ▸ hc⟩
  cases segments with
  | nil => exact ⟨hsingle, nofun, h⟩
  | cons segment rest =>
    cases segment with
    | literal text =>
      obtain ⟨⟨_, hplain⟩, hapart, hrest⟩ := h
      refine ⟨⟨List.cons_ne_nil c text, ?_⟩, ?_, hrest⟩
      · intro d hd
        rcases List.mem_cons.1 hd with rfl | hd
        · exact hc
        · exact hplain d hd
      · intro next hnext
        have hnext := hapart next hnext
        cases next with
        | literal _ => exact hnext.elim
        | capture _ _ _ | choice _ | group _ | bare => trivial
    | capture _ _ _ | choice _ | group _ | bare =>
      refine ⟨hsingle, ?_, h⟩
      intro next hnext
      obtain rfl := Option.some.inj hnext
      trivial

end Segments

namespace Template.Item

/-- A literal that mirrors the first items begins as they do. -/
theorem Spells.head?_literal {items : List Item} {t text : Text} (h : Spells items t)
    (hfirst : (mirrored items).head? = some (.literal text)) : text.head? = t.head? := by
  cases h with
  | nil => cases hfirst
  | @plain c items t _ _ =>
    replace hfirst : ((mirrored items).withChar c).head? = some (.literal text) := hfirst
    unfold Segments.withChar at hfirst
    split at hfirst <;>
      · obtain rfl := Segment.literal.inj (Option.some.inj hfirst)
        rfl
  | capture _ _ _ | choice _ _ _ | group _ _ _ => cases hfirst

theorem isPrintable_choice {body : Text} (hne : body ≠ [])
    (hbody : ∀ c ∈ body, isSpecial c = false) : (Segment.choice (options body)).IsPrintable := by
  rw [← optionsOf_eq]
  refine ⟨optionsOf_ne_nil body, nodup_optionsOf hne, ?_⟩
  intro option hoption
  obtain ⟨hbar, hmem⟩ := mem_optionsOf hoption
  exact ⟨hbar, fun c hc => hbody c (hmem c hc)⟩

/-- What mirrors items is printable. -/
theorem Spells.isPrintable {items : List Item} {t : Text} (h : Spells items t) :
    Segments.IsPrintable (mirrored items) := by
  induction h with
  | nil => trivial
  | plain hc _ ih => exact ih.withChar hc
  | @capture name items t hname hend h ih =>
    refine ⟨hname, ?_, ih⟩
    intro next hnext
    cases next with
    | literal text =>
      intro c hc
      exact hend c (h.head?_literal hnext ▸ hc)
    | capture _ _ _ | choice _ | group _ | bare => trivial
  | choice hne hbody _ ih => exact ⟨isPrintable_choice hne hbody, fun _ _ => trivial, ih⟩
  | group hne _ _ ihinner ih => exact ⟨⟨mirrored_ne_nil hne, ihinner⟩, fun _ _ => trivial, ih⟩

end Template.Item

namespace Segments

theorem isApart_iff (segment : Segment) (rest : Segments) :
    (∀ next ∈ (withoutOffsets (withoutStops rest)).head?,
        segment.withoutStops.withoutOffsets.IsApart next) ↔
      ∀ next ∈ rest.head?, segment.IsApart next := by
  cases rest with
  | nil => exact ⟨fun _ => nofun, fun _ => nofun⟩
  | cons next others =>
    have hpair : segment.withoutStops.withoutOffsets.IsApart next.withoutStops.withoutOffsets ↔
        segment.IsApart next := by
      cases segment <;> cases next <;> exact Iff.rfl
    simpa [withoutStops, withoutOffsets] using hpair

/-- Neither stops nor offsets matter for what is printable. -/
theorem isPrintable_iff (segments : Segments) :
    IsPrintable (withoutOffsets (withoutStops segments)) ↔ IsPrintable segments := by
  induction segments using nestedInduction with
  | nil => exact Iff.rfl
  | cons segment rest hinner ih =>
    have hfirst : segment.withoutStops.withoutOffsets.IsPrintable ↔ segment.IsPrintable := by
      cases segment with
      | group inner =>
        have hne : withoutOffsets (withoutStops inner) ≠ [] ↔ inner ≠ [] := by
          cases inner <;> simp [withoutStops, withoutOffsets]
        exact and_congr hne (hinner inner rfl)
      | literal _ | capture _ _ _ | choice _ | bare => exact Iff.rfl
    exact and_congr hfirst (and_congr (isApart_iff segment rest) ih)

theorem heads_withoutOffsets (segments : Segments) :
    heads (withoutOffsets segments) = heads segments := by
  induction segments using nestedInduction with
  | nil => rfl
  | cons segment rest hinner ih =>
    have hfirst : segment.withoutOffsets.heads = segment.heads := by
      cases segment with
      | group inner => simp only [Segment.withoutOffsets, Segment.heads, hinner inner rfl]
      | literal _ | capture _ _ _ | choice _ | bare => rfl
    rw [withoutOffsets, heads, heads, hfirst, ih]

theorem withStops_withoutOffsets {segments result : Segments} {next : Heads} :
    withStops next (withoutOffsets segments) = .ok result ↔
      ∃ segments', withStops next segments = .ok segments' ∧ withoutOffsets segments' = result := by
  induction segments using nestedInduction generalizing next result with
  | nil => simp [withoutOffsets, withStops]
  | cons segment rest hinner ih =>
    have hfirst : ∀ {next : Heads} {segment' : Segment},
        segment.withoutOffsets.withStops next = .ok segment' ↔
          ∃ segment'', segment.withStops next = .ok segment'' ∧
            segment''.withoutOffsets = segment' := by
      intro next segment'
      cases segment with
      | capture name stops offset =>
        constructor
        · intro h
          obtain ⟨hcapture, rfl⟩ := Segment.withStops_capture_eq_ok.1 h
          exact ⟨_, Segment.withStops_capture_eq_ok.2 ⟨hcapture, rfl⟩, rfl⟩
        · intro hsome
          obtain ⟨_, h, rfl⟩ := hsome
          obtain ⟨hcapture, rfl⟩ := Segment.withStops_capture_eq_ok.1 h
          exact Segment.withStops_capture_eq_ok.2 ⟨hcapture, rfl⟩
      | group inner =>
        constructor
        · intro h
          obtain ⟨_, hplaced, rfl⟩ := Segment.withStops_group_eq_ok.1 h
          obtain ⟨inner', hinner', rfl⟩ := (hinner inner rfl).1 hplaced
          exact ⟨.group inner', Segment.withStops_group_eq_ok.2 ⟨inner', hinner', rfl⟩, rfl⟩
        · intro hsome
          obtain ⟨_, h, rfl⟩ := hsome
          obtain ⟨inner', hinner', rfl⟩ := Segment.withStops_group_eq_ok.1 h
          have hplaced := (hinner inner rfl).2 ⟨inner', hinner', rfl⟩
          exact Segment.withStops_group_eq_ok.2 ⟨_, hplaced, rfl⟩
      | literal _ | choice _ | bare =>
        simp [Segment.withoutOffsets, Segment.withStops]
    simp only [withoutOffsets, withStops_cons_eq_ok, heads_withoutOffsets, hfirst, ih]
    constructor
    · intro hsome
      obtain ⟨_, _, ⟨segment', hsegment, rfl⟩, ⟨rest', hrest, rfl⟩, rfl⟩ := hsome
      exact ⟨segment' :: rest', ⟨segment', rest', hsegment, hrest, rfl⟩, rfl⟩
    · intro hsome
      obtain ⟨_, ⟨segment', rest', hsegment, hrest, rfl⟩, rfl⟩ := hsome
      exact ⟨_, _, ⟨segment', hsegment, rfl⟩, ⟨rest', hrest, rfl⟩, rfl⟩

end Segments

namespace Pattern

variable {template template' : Text} {p : Pattern} {segments : Segments}

/-- The segments of a compiled pattern mirror the items that its template is made of. -/
theorem exists_mirrored_of_compile (h : compile template = .ok p) :
    ∃ items t, Item.Spells items t ∧ (template = t ∨ template = t ++ ['?']) ∧
      (Segments.withoutStops p.segments).withoutOffsets = Item.mirrored items := by
  obtain ⟨-, houtline, -⟩ := compile_eq_ok h
  obtain ⟨items, t, hspells, htemplate⟩ := Item.exists_spells_of_outline houtline
  obtain ⟨segments, hsegments, -, hmirrors, -⟩ := hspells.exists_outline htemplate
  obtain rfl : segments = Segments.withoutStops p.segments :=
    Except.ok.inj (hsegments.symm.trans houtline)
  exact ⟨items, t, hspells, htemplate, hmirrors⟩

theorem isPrintable_compile (h : compile template = .ok p) : p.segments.IsPrintable := by
  obtain ⟨items, t, hspells, -, hmirrors⟩ := exists_mirrored_of_compile h
  rw [← Segments.isPrintable_iff, hmirrors]
  exact hspells.isPrintable

/-- The stops of a compiled pattern are those that segments of its form are given. -/
theorem withStops_of_compile (h : compile template = .ok p) :
    Segments.withStops Heads.nothing (Segments.withoutStops p.segments).withoutOffsets =
      .ok p.segments.withoutOffsets := by
  obtain ⟨-, -, hstops⟩ := compile_eq_ok h
  rw [← Segments.withStops_withoutStops] at hstops
  exact Segments.withStops_withoutOffsets.2 ⟨p.segments, hstops, rfl⟩

theorem exists_compile_of_withStops {result : Segments}
    (houtline : Template.outline template = .ok segments)
    (hstops : Segments.withStops Heads.nothing segments.withoutOffsets = .ok result) :
    ∃ p, compile template = .ok p ∧ p.segments.withoutOffsets = result := by
  obtain ⟨segments', hsegments', hform⟩ := Segments.withStops_withoutOffsets.1 hstops
  refine ⟨⟨template, segments'⟩, ?_, hform⟩
  rw [compile_eq houtline, hsegments']

theorem exists_compile_of_outline (h : compile template = .ok p)
    (houtline : Template.outline template' = .ok segments)
    (hsame : segments.withoutOffsets = (Segments.withoutStops p.segments).withoutOffsets) :
    ∃ p', compile template' = .ok p' ∧ p'.segments.withoutOffsets = p.segments.withoutOffsets :=
  exists_compile_of_withStops houtline (hsame ▸ withStops_of_compile h)

/-- Writing the segments of a compiled pattern and compiling what is written gives the segments
again, and so does reading what is written for any printable segments, which then have no stops yet.
-/
theorem compile_printed :
    (∀ template p, compile template = .ok p → ∃ p', compile p.segments.printed = .ok p' ∧
      p'.segments.withoutOffsets = p.segments.withoutOffsets) ∧
    ∀ segments : Segments, segments.IsPrintable →
      ∃ outlined, Template.outline segments.printed = .ok outlined ∧
        outlined.withoutOffsets = (Segments.withoutStops segments).withoutOffsets := by
  refine ⟨?_, fun segments h => h.exists_outline⟩
  intro template p h
  obtain ⟨outlined, houtline, hsame⟩ := (isPrintable_compile h).exists_outline
  exact exists_compile_of_outline h houtline hsame

/-- A single option is written twice and read as one, also if it is the empty text. -/
theorem compile_printed_single_option :
    let p : Pattern :=
      ⟨['$', 'A', '(', ':', '|', ':', ')', '[', '$', 'B', ']', '?'],
        [.capture ['A'] [[':']] 0, .choice [[':']], .group [.capture ['B'] [] 8]]⟩
    let segments : Segments :=
      [.literal ['a'], .capture ['b'] [['c']] 7, .literal ['-'], .group [.group [.choice [[]]]]]
    compile p.template = .ok p ∧
      (∃ p', compile ['$', 'A', '(', ':', '|', ':', ')', '[', '$', 'B', ']'] = .ok p' ∧
        p'.segments.withoutOffsets = p.segments.withoutOffsets) ∧
      segments.IsPrintable ∧
      ∃ outlined,
        Template.outline ['a', '$', 'b', '-', '[', '[', '(', '|', ')', ']', ']'] = .ok outlined ∧
        outlined.withoutOffsets = (Segments.withoutStops segments).withoutOffsets := by
  intro p segments
  have hcompile : compile p.template = .ok p := rfl
  have hprintable : segments.IsPrintable := by
    simp [segments, Segments.IsPrintable, Segment.IsPrintable, Segment.IsApart, EndsBefore]
    decide
  exact ⟨hcompile, compile_printed.1 p.template p hcompile, hprintable,
    compile_printed.2 segments hprintable⟩

end Pattern

end DsnBinding
