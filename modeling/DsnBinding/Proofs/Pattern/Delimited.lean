import DsnBinding.Proofs.Pattern.Accounting
import DsnBinding.Proofs.Pattern.Compiled
import DsnBinding.Proofs.Template.Neighbours

/-!
Templates of literals and variables that do not end in a literal behind a variable. A match never
goes back, and yet it misses nothing: wherever some texts for the variables turn the template into
the text, ending each variable at the first occurrence of its delimiter leaves more text to the
next variable, which can always take it. The lengths that are captured are therefore the least in
lexicographic order.
-/
namespace DsnBinding

def Segment.isSimple : Segment → Bool
  | .literal _ | .capture .. => true
  | .choice _ | .group _ | .bare => false

namespace Segments

/-- The texts, one for each capture, turn a sequence of literals and captures into a text. -/
inductive TurnsInto : Segments → List Text → Text → Prop
  | nil : TurnsInto [] [] []
  | literal (text : Text) {rest : Segments} {texts : List Text} {t : Text}
      (h : TurnsInto rest texts t) : TurnsInto (.literal text :: rest) texts (text ++ t)
  | capture (name : Text) (stops : List Text) (offset : Nat) (piece : Text) {rest : Segments}
      {texts : List Text} {t : Text} (h : TurnsInto rest texts t) :
      TurnsInto (.capture name stops offset :: rest) (piece :: texts) (piece ++ t)

/-- Captures with one delimiter between neighbours, the last of them without any. -/
inductive IsDelimited : Segments → Prop
  | last (name : Text) (offset : Nat) : IsDelimited [.capture name [] offset]
  | capture (name : Text) (offset : Nat) (delimiter : Text) {rest : Segments}
      (h : IsDelimited rest) :
      IsDelimited (.capture name [delimiter] offset :: .literal delimiter :: rest)

end Segments

def Pieces.captures (pieces : Pieces) : List Text :=
  pieces.filterMap fun
    | .capture _ text => some text
    | .literal _ | .option _ | .present _ | .absent _ => none

namespace Segments

/-- What a sequence of literals and captures derives turns it into the text that it derives. -/
theorem Derives.turnsInto {segments : Segments} {t : Text} {pieces : Pieces}
    (h : Derives segments t pieces) (hsimple : ∀ segment ∈ segments, segment.isSimple = true) :
    TurnsInto segments (Pieces.captures pieces) (Pieces.text pieces) := by
  induction segments generalizing t pieces with
  | nil =>
    cases h
    exact .nil
  | cons segment rest ih =>
    cases h with | @cons _ _ t piece pieces first others =>
    have hothers := ih others fun other hother => hsimple other (List.mem_cons_of_mem _ hother)
    cases first with
    | literal _ => exact .literal _ hothers
    | capture _ => exact .capture _ _ _ _ hothers
    | choice _ _ _ | present _ | absent _ _ =>
      exact absurd (hsimple _ List.mem_cons_self) (by simp [Segment.isSimple])

theorem Derives.map_value? {segments : Segments} {t : Text} {pieces : Pieces}
    (h : Derives segments t pieces) (hsimple : ∀ segment ∈ segments, segment.isSimple = true)
    (hnodup : (names segments).Nodup) :
    (names segments).map (Pieces.value? pieces) = (Pieces.captures pieces).map some := by
  induction segments generalizing t pieces with
  | nil =>
    cases h
    rfl
  | cons segment rest ih =>
    cases h with | @cons _ _ t piece pieces first others =>
    obtain ⟨hfirst, hothers⟩ := Derives.value?_cons first others hnodup
    have hrest := ih others (fun other hother => hsimple other (List.mem_cons_of_mem _ hother))
      (List.nodup_append.1 hnodup).2.1
    have hnames : (names rest).map (Pieces.value? (piece :: pieces)) =
        (Pieces.captures pieces).map some := by
      rw [← hrest]
      exact List.map_congr_left hothers
    cases first with
    | literal _ => exact hnames
    | @capture name _ _ _ text _ =>
      have hname : Pieces.value? (.capture name text :: pieces) name = some text :=
        (hfirst name (List.mem_singleton.2 rfl)).trans (Pieces.value?_capture name text)
      rw [names, Segment.names, List.singleton_append, List.map_cons, hname, hnames]
      rfl
    | choice _ _ _ | present _ | absent _ _ =>
      exact absurd (hsimple _ List.mem_cons_self) (by simp [Segment.isSimple])

/-- The first capture of a delimited sequence can take any text in front of its own. -/
theorem IsDelimited.exists_turnsInto_append {segments : Segments} {texts : List Text} {t : Text}
    (h : IsDelimited segments) (hturns : TurnsInto segments texts t) (u : Text) :
    ∃ texts', TurnsInto segments texts' (u ++ t) := by
  obtain ⟨name, stops, offset, rest, rfl⟩ :
      ∃ name stops offset rest, segments = .capture name stops offset :: rest := by
    cases h <;> exact ⟨_, _, _, _, rfl⟩
  cases hturns with | @capture _ _ _ piece _ texts t hrest =>
  refine ⟨(u ++ piece) :: texts, ?_⟩
  rw [← List.append_assoc]
  exact .capture name stops offset (u ++ piece) hrest

end Segments

namespace Text.EndsAtStop

variable {delimiter x t piece : Text}

/-- In front of a delimiter, a piece ends at the delimiter at the latest. -/
theorem length_le_of_delimiter (h : EndsAtStop [delimiter] (x ++ (delimiter ++ t)) piece) :
    piece.length ≤ x.length := by
  refine Nat.le_of_not_lt fun hlt => ?_
  apply h.before x.length hlt delimiter (List.mem_singleton.2 rfl)
  rw [List.drop_left]
  exact List.prefix_append delimiter t

/-- What a piece leaves in front of a delimiter stands behind the first delimiter. -/
theorem exists_eq_append_delimiter (h : EndsAtStop [delimiter] (x ++ (delimiter ++ t)) piece) :
    ∃ u, x ++ (delimiter ++ t) = piece ++ (delimiter ++ (u ++ t)) := by
  have hle := h.length_le_of_delimiter
  obtain ⟨w, rfl⟩ := List.prefix_of_prefix_length_le h.isPrefix (List.prefix_append x _) hle
  have hbehind : delimiter <+: w ++ (delimiter ++ t) := by
    rcases h.behind with hall | ⟨stop, hstop, hbegins⟩
    · have hlength := congrArg List.length hall
      simp only [List.length_append] at hlength
      have hnil : delimiter = [] := List.length_eq_zero_iff.1 (by omega)
      rw [hnil]
      exact List.nil_prefix
    · obtain rfl := List.mem_singleton.1 hstop
      rw [List.append_assoc, List.drop_left] at hbegins
      exact hbegins
  obtain ⟨z, hz⟩ := hbehind
  have hlength := congrArg List.length hz
  simp only [List.length_append] at hlength
  have hsuffix : t <:+ delimiter ++ z := by
    rw [hz, ← List.append_assoc]
    exact List.suffix_append _ t
  obtain ⟨u, rfl⟩ := List.suffix_of_suffix_length_le hsuffix (List.suffix_append delimiter z)
    (by omega)
  exact ⟨u, by rw [List.append_assoc, hz]⟩

end Text.EndsAtStop

namespace Segments

theorem Finds.literal {rest : Segments} {t : Text} {pieces : Pieces} (h : Finds rest t pieces)
    (text : Text) : Finds (.literal text :: rest) (text ++ t) (.literal text :: pieces) := by
  have hfirst : Segment.Finds (.literal text) ((Piece.literal text).text ++ t) (.literal text) :=
    .leaf (fun _ heq => nomatch heq) (.literal (List.prefix_append text t))
  exact .cons hfirst h

theorem Finds.capture {rest : Segments} {stops : List Text} {piece t : Text} {pieces : Pieces}
    (h : Finds rest t pieces) (hends : Text.EndsAtStop stops (piece ++ t) piece) (name : Text)
    (offset : Nat) :
    Finds (.capture name stops offset :: rest) (piece ++ t) (.capture name piece :: pieces) := by
  have hfirst : Segment.Finds (.capture name stops offset)
      ((Piece.capture name piece).text ++ t) (.capture name piece) :=
    .leaf (fun _ heq => nomatch heq) (.capture hends)
  exact .cons hfirst h

/-- Wherever texts turn a sequence into a text, matching finds it there, and what it captures is
first in the lexicographic order of the lengths. -/
structure IsExact (segments : Segments) : Prop where
  exists_finds : ∀ texts t, TurnsInto segments texts t →
    ∃ pieces, Finds segments t pieces ∧ Pieces.text pieces = t
  least : ∀ pieces others t, Finds segments t pieces → Pieces.text pieces = t →
    TurnsInto segments others t → Pieces.captures pieces = others ∨
      List.Lex (· < ·) ((Pieces.captures pieces).map List.length) (others.map List.length)

theorem isExact_nil : IsExact [] where
  exists_finds texts t h := by
    cases h
    exact ⟨[], .nil [], rfl⟩
  least pieces others t h htext hturns := by
    cases h
    cases hturns
    exact Or.inl rfl

theorem IsExact.literal {rest : Segments} (h : IsExact rest) (text : Text) :
    IsExact (.literal text :: rest) where
  exists_finds texts t hturns := by
    cases hturns with | @literal _ _ _ t hrest =>
    obtain ⟨pieces, hfinds, rfl⟩ := h.exists_finds texts t hrest
    exact ⟨.literal text :: pieces, hfinds.literal text, rfl⟩
  least pieces others t hfinds htext hturns := by
    cases hturns with | @literal _ _ _ t hothers =>
    obtain ⟨piece, pieces, rfl, first, hrest⟩ :=
      hfinds.of_cons ((List.append_nil _).trans htext).symm
    cases first with | leaf _ hderives =>
    cases hderives
    have htext : Pieces.text pieces = t := List.append_cancel_left htext
    rw [List.append_nil, htext] at hrest
    exact h.least pieces others t hrest htext hothers

theorem isExact_last (name : Text) (offset : Nat) : IsExact [.capture name [] offset] where
  exists_finds texts t hturns := by
    have hends : Text.EndsAtStop [] (t ++ []) t :=
      ⟨List.prefix_append t [], fun _ _ _ hstop => absurd hstop List.not_mem_nil,
        Or.inl (List.append_nil t).symm⟩
    have hfinds := (Finds.nil []).capture hends name offset
    rw [List.append_nil] at hfinds
    exact ⟨[.capture name t], hfinds, List.append_nil t⟩
  least pieces others t hfinds htext hturns := by
    cases hturns with | @capture _ _ _ text _ _ _ hothers =>
    cases hothers
    obtain ⟨piece, pieces, rfl, first, hrest⟩ :=
      hfinds.of_cons ((List.append_nil _).trans htext).symm
    cases first with | leaf _ hderives =>
    cases hderives with | @capture _ _ _ _ piece _ =>
    cases hrest
    have heq : piece = text := by simpa [Pieces.text, Piece.text] using htext
    exact Or.inl (congrArg (fun text => [text]) heq)

/-- If the first delimiter comes before the one that the given texts put there, what stands between
them is left to the next capture. -/
theorem IsExact.capture {rest : Segments} (hdelimited : IsDelimited rest) (h : IsExact rest)
    (name : Text) (offset : Nat) (delimiter : Text) :
    IsExact (.capture name [delimiter] offset :: .literal delimiter :: rest) where
  exists_finds texts t hturns := by
    cases hturns with | @capture _ _ _ x _ texts _ hturns =>
    cases hturns with | @literal _ _ _ t hturns =>
    have hends := Text.upTo_endsAtStop [delimiter] (x ++ (delimiter ++ t))
    obtain ⟨u, hu⟩ := hends.exists_eq_append_delimiter
    generalize Text.upTo [delimiter] (x ++ (delimiter ++ t)) = piece at hends hu
    obtain ⟨texts', hturns'⟩ := hdelimited.exists_turnsInto_append hturns u
    obtain ⟨pieces, hfinds, htext⟩ :=
      (h.literal delimiter).exists_finds texts' _ (.literal delimiter hturns')
    rw [hu] at hends ⊢
    exact ⟨.capture name piece :: pieces, hfinds.capture hends name offset,
      congrArg (piece ++ ·) htext⟩
  least pieces others t hfinds htext hturns := by
    cases hturns with | @capture _ _ _ x _ others t hturns =>
    obtain ⟨piece, pieces, rfl, first, hrest⟩ :=
      hfinds.of_cons ((List.append_nil _).trans htext).symm
    cases first with | leaf _ hderives =>
    cases hderives with | @capture _ _ _ _ piece hends =>
    have htext : piece ++ Pieces.text pieces = x ++ t := htext
    rw [List.append_nil] at hends hrest
    have hle : piece.length ≤ x.length := by
      cases hturns with | @literal _ _ _ t hturns =>
      have hends : Text.EndsAtStop [delimiter] (piece ++ Pieces.text pieces) piece := hends
      rw [htext] at hends
      exact hends.length_le_of_delimiter
    rcases Nat.lt_or_eq_of_le hle with hlt | heq
    · exact Or.inr (.rel hlt)
    · obtain ⟨rfl, rfl⟩ := List.append_inj htext heq
      rcases (h.literal delimiter).least pieces others _ hrest rfl hturns with heq | hlex
      · exact Or.inl (congrArg (piece :: ·) heq)
      · exact Or.inr (.cons hlex)

/-- A sequence of literals and captures that begins and ends with a capture is delimited if it has
the stops that belong to it. -/
theorem IsDelimited.of_withStops {name : Text} {stops : List Text} {offset : Nat} :
    (rest : Segments) → (∀ segment ∈ rest, segment.isSimple = true) →
    (rest.IsChain fun a b => a.isLiteral = true → b.isLiteral = false) →
    (∀ segment ∈ (.capture name stops offset :: rest).getLast?, segment.isLiteral = false) →
    withStops Heads.nothing (.capture name stops offset :: rest) =
      .ok (.capture name stops offset :: rest) →
    IsDelimited (.capture name stops offset :: rest)
  | [], _, _, _, h => by
    obtain ⟨-, hstops⟩ := Segment.withStops_capture_eq_self (withStops_cons_eq_self h).1
    obtain rfl : stops = [] := hstops
    exact .last name offset
  | .literal delimiter :: .capture name' stops' offset' :: rest, hsimple, hchain, hlast, h => by
    obtain ⟨hfirst, hrest⟩ := withStops_cons_eq_self h
    obtain ⟨-, hstops⟩ := Segment.withStops_capture_eq_self hfirst
    obtain rfl : stops = [delimiter] := hstops
    refine .capture name offset delimiter (of_withStops rest ?_ hchain.tail.tail hlast ?_)
    · intro segment hmem
      exact hsimple segment (List.mem_cons_of_mem _ (List.mem_cons_of_mem _ hmem))
    · exact (withStops_cons_eq_self hrest).2
  | [.literal _], _, _, hlast, _ => absurd (hlast _ rfl) (by simp [Segment.isLiteral])
  | .literal _ :: .literal _ :: _, _, hchain, _, _ =>
    absurd ((List.isChain_cons_cons.1 hchain).1 rfl) (by simp [Segment.isLiteral])
  | .capture _ _ _ :: _, _, _, _, h => by
    obtain ⟨hcapture, -⟩ := Segment.withStops_capture_eq_self (withStops_cons_eq_self h).1
    cases hcapture
  | .choice _ :: _, hsimple, _, _, _ | .group _ :: _, hsimple, _, _, _
  | .bare :: _, hsimple, _, _, _ | .literal _ :: .choice _ :: _, hsimple, _, _, _
  | .literal _ :: .group _ :: _, hsimple, _, _, _ | .literal _ :: .bare :: _, hsimple, _, _, _ => by
    simp [Segment.isSimple] at hsimple

theorem IsDelimited.isExact {segments : Segments} (h : IsDelimited segments) :
    IsExact segments := by
  induction h with
  | last name offset => exact isExact_last name offset
  | capture name offset delimiter h ih => exact ih.capture h name offset delimiter

theorem isLiteral_withoutStops (segment : Segment) :
    segment.withoutStops.isLiteral = segment.isLiteral := by
  cases segment <;> rfl

theorem isExact_of_withStops : (segments : Segments) →
    (∀ segment ∈ segments, segment.isSimple = true) →
    (segments.IsChain fun a b => a.isLiteral = true → b.isLiteral = false) →
    (names segments ≠ [] → ∀ segment ∈ segments.getLast?, segment.isLiteral = false) →
    withStops Heads.nothing segments = .ok segments → IsExact segments
  | [], _, _, _, _ => isExact_nil
  | .capture _ _ _ :: rest, hsimple, hchain, hlast, h => by
    have hrest : ∀ segment ∈ rest, segment.isSimple = true :=
      fun segment hmem => hsimple segment (List.mem_cons_of_mem _ hmem)
    exact (IsDelimited.of_withStops rest hrest hchain.tail (hlast (List.cons_ne_nil _ _)) h).isExact
  | [.literal text], _, _, _, _ => isExact_nil.literal text
  | .literal text :: .capture name stops offset :: rest, hsimple, hchain, hlast, h => by
    have hrest := isExact_of_withStops (.capture name stops offset :: rest)
      (fun segment hmem => hsimple segment (List.mem_cons_of_mem _ hmem)) hchain.tail hlast
      (withStops_cons_eq_self h).2
    exact hrest.literal text
  | .literal _ :: .literal _ :: _, _, hchain, _, _ =>
    absurd ((List.isChain_cons_cons.1 hchain).1 rfl) (by simp [Segment.isLiteral])
  | .choice _ :: _, hsimple, _, _, _ | .group _ :: _, hsimple, _, _, _
  | .bare :: _, hsimple, _, _, _ | .literal _ :: .choice _ :: _, hsimple, _, _, _
  | .literal _ :: .group _ :: _, hsimple, _, _, _ | .literal _ :: .bare :: _, hsimple, _, _, _ => by
    simp [Segment.isSimple] at hsimple

end Segments

namespace Pattern

theorem isExact_of_compile {template : Text} {p : Pattern} (h : compile template = .ok p)
    (hsimple : ∀ segment ∈ p.segments, segment.isSimple = true)
    (hlast : p.names = [] ∨
      ∃ name stops offset, p.segments.getLast? = some (.capture name stops offset)) :
    p.segments.IsExact := by
  obtain ⟨-, houtline, hstops⟩ := compile_eq_ok h
  have hchain := (Template.isSpaced_outline houtline).isChain
  rw [Segments.withoutStops_eq_map, List.isChain_map] at hchain
  simp only [Segments.isLiteral_withoutStops] at hchain
  refine Segments.isExact_of_withStops p.segments hsimple hchain ?_ hstops
  intro hnames segment hmem
  obtain ⟨name, stops, offset, heq⟩ := hlast.resolve_left hnames
  rw [heq] at hmem
  obtain rfl := Option.some.inj hmem
  rfl

/-- A template of literals and captures that is only literal or ends in a capture matches exactly
the texts into which some texts for its captures turn it. What a match captures are such texts, and
no others come before them in the lexicographic order of the lengths. -/
theorem run_exact_of_delimited {template : Text} {p : Pattern} (h : compile template = .ok p)
    (hsimple : ∀ segment ∈ p.segments, segment.isSimple = true)
    (hlast : p.names = [] ∨
      ∃ name stops offset, p.segments.getLast? = some (.capture name stops offset))
    (text : Text) :
    ((∃ o, p.run text = .ok o) ↔ ∃ texts, Segments.TurnsInto p.segments texts text) ∧
      (p.names.Nodup → ∀ o, p.run text = .ok o →
        ∃ texts, p.names.map o.captures.get? = texts.map some ∧
          Segments.TurnsInto p.segments texts text ∧
          ∀ others, Segments.TurnsInto p.segments others text →
            texts = others ∨
              List.Lex (· < ·) (texts.map List.length) (others.map List.length)) := by
  have hexact := isExact_of_compile h hsimple hlast
  refine ⟨⟨?_, ?_⟩, ?_⟩
  · intro hsome
    obtain ⟨o, hrun⟩ := hsome
    obtain ⟨pieces, hfinds, htext, -⟩ := exists_finds_of_run hrun
    have hturns := hfinds.derives.turnsInto hsimple
    rw [htext] at hturns
    exact ⟨_, hturns⟩
  · intro hsome
    obtain ⟨texts, hturns⟩ := hsome
    obtain ⟨pieces, hfinds, htext⟩ := hexact.exists_finds texts text hturns
    obtain ⟨o, hrun, -⟩ := exists_run_of_finds hfinds htext
    exact ⟨o, hrun⟩
  · intro hnodup o hrun
    obtain ⟨pieces, hfinds, htext, hcaptures⟩ := exists_finds_of_run hrun
    have hturns := hfinds.derives.turnsInto hsimple
    rw [htext] at hturns
    refine ⟨Pieces.captures pieces, ?_, hturns, ?_⟩
    · rw [← hfinds.derives.map_value? hsimple hnodup]
      exact List.map_congr_left fun name _ => hcaptures name
    · exact fun others hothers => hexact.least pieces others text hfinds htext hothers

/-- The delimiters overlap in the text, which other texts for the captures spell as well. -/
theorem run_exact_of_delimited_overlapping :
    let template : Text := ['$', 'A', '-', '-', '$', 'B', '-', '$', 'C']
    let segments : Segments :=
      [.capture ['A'] [['-', '-']] 0, .literal ['-', '-'], .capture ['B'] [['-']] 4,
        .literal ['-'], .capture ['C'] [] 7]
    let p : Pattern := ⟨template, segments⟩
    let text : Text := ['x', '-', '-', '-', 'y', '-', '-', 'z']
    compile template = .ok p ∧
      Segments.TurnsInto segments [['x', '-'], ['y'], ['-', 'z']] text ∧
      ∃ o texts, p.run text = .ok o ∧ p.names.map o.captures.get? = texts.map some ∧
        ∀ others, Segments.TurnsInto segments others text →
          texts = others ∨ List.Lex (· < ·) (texts.map List.length) (others.map List.length) := by
  intro template segments p text
  have hcompile : compile template = .ok p := by rfl
  have hsimple : ∀ segment ∈ p.segments, segment.isSimple = true := by decide
  have hturns : Segments.TurnsInto segments [['x', '-'], ['y'], ['-', 'z']] text :=
    .capture ['A'] [['-', '-']] 0 ['x', '-'] (.literal ['-', '-'] (.capture ['B'] [['-']] 4 ['y']
      (.literal ['-'] (.capture ['C'] [] 7 ['-', 'z'] .nil))))
  obtain ⟨hiff, hleast⟩ :=
    run_exact_of_delimited hcompile hsimple (Or.inr ⟨['C'], [], 7, rfl⟩) text
  obtain ⟨o, hrun⟩ := hiff.2 ⟨_, hturns⟩
  obtain ⟨texts, htexts, -, hbefore⟩ := hleast (by decide) o hrun
  exact ⟨hcompile, hturns, o, texts, hrun, htexts, hbefore⟩

end Pattern

end DsnBinding
