import DsnBinding.Proofs.Dsn.Formatting
import DsnBinding.Proofs.Pattern.Scheme

/-!
Writing a template toward a scheme. A template is written as a sequence of places with the texts to
choose from at each of them. Within the scheme the longest text that continues it is taken; at the
first place without one, and behind it, the first texts are. Whether the output begins with the
scheme and the mark thus depends on what the first texts from that place on begin with.
-/
namespace DsnBinding

mutual

/-- The places at which a segment writes a text, each with the texts to choose from. A group without
a text has none. -/
def Segment.places (filling : Filling) : Segment → List (List Text)
  | .literal text => [[text]]
  | .capture name _ _ => [[filling.text name]]
  | .choice options => [options]
  | .group inner => if Segments.hasText filling inner then Segments.places filling inner else []
  | .bare => []

def Segments.places (filling : Filling) : Segments → List (List Text)
  | [] => []
  | segment :: rest => segment.places filling ++ Segments.places filling rest

end

/-- Write a text at each place, behind what is written so far. -/
def Filling.writeAll (filling : Filling) : List (List Text) → Text → Text
  | [], written => written
  | options :: rest, written => filling.writeAll rest (written ++ filling.option written options)

def firstTexts (places : List (List Text)) : Text := places.flatMap (·.headD [])

/-- Whether the places complete what is left of a scheme: the longest option that continues the
scheme stands at each place up to the first place without one, and the first texts from there on
begin with what is left of the scheme and with the mark. -/
def Restores : List (List Text) → Text → Prop
  | [], _ => False
  | options :: rest, left =>
    match (longestFirst options).find? (·.isPrefixOf left) with
    | some option => Restores rest (left.drop option.length)
    | none => left ++ schemeMark <+: options.headD [] ++ firstTexts rest

theorem restores_cons_of_some {options : List Text} {rest : List (List Text)} {option left : Text}
    (h : (longestFirst options).find? (·.isPrefixOf (option ++ left)) = some option) :
    Restores (options :: rest) (option ++ left) ↔ Restores rest left := by
  simp only [Restores, h, List.drop_left]

theorem restores_cons_of_none {options : List Text} {rest : List (List Text)} {left : Text}
    (h : (longestFirst options).find? (·.isPrefixOf left) = none) :
    Restores (options :: rest) left ↔
      left ++ schemeMark <+: options.headD [] ++ firstTexts rest := by
  simp only [Restores, h]

namespace Filling

theorem writeAll_append (filling : Filling) (places places' : List (List Text)) (written : Text) :
    filling.writeAll (places ++ places') written =
      filling.writeAll places' (filling.writeAll places written) := by
  induction places generalizing written with
  | nil => rfl
  | cons options rest ih => exact ih _

theorem option_singleton (filling : Filling) (written text : Text) :
    filling.option written [text] = text := by
  unfold option
  split
  · rfl
  · by_cases h : (written ++ text).isPrefixOf filling.scheme = true <;>
      simp [longestFirst, insertByLength, h]

theorem writeAll_eq_of_not_prefix (filling : Filling) (places : List (List Text)) {written : Text}
    (hwritten : ¬ written <+: filling.scheme) :
    filling.writeAll places written = written ++ firstTexts places := by
  induction places generalizing written with
  | nil => simp [writeAll, firstTexts]
  | cons options rest ih =>
    have hbeyond : ∀ text : Text, ¬ written ++ text <+: filling.scheme :=
      fun text hbegins => hwritten ((List.prefix_append written text).trans hbegins)
    have hoption : filling.option written options = options.headD [] := by
      unfold option
      split
      · rfl
      · have hnone : (longestFirst options).find?
            (fun option => (written ++ option).isPrefixOf filling.scheme) = none := by
          refine List.find?_eq_none.2 ?_
          intro option _ hfits
          exact hbeyond option (List.isPrefixOf_iff_prefix.1 hfits)
        rw [hnone, Option.getD_none]
    rw [writeAll, hoption, ih (hbeyond _), firstTexts, firstTexts, List.flatMap_cons,
      List.append_assoc]

end Filling

/-- Writing a template is writing a text at each of its places. -/
theorem Segments.write_eq_writeAll (filling : Filling) (segments : Segments) (written : Text) :
    write filling segments written = filling.writeAll (places filling segments) written := by
  induction segments using nestedInduction generalizing written with
  | nil => rfl
  | cons segment rest hinner ih =>
    have hfirst : segment.write filling written =
        filling.writeAll (segment.places filling) written := by
      cases segment with
      | group inner =>
        rw [Segment.write, Segment.places]
        split
        · exact hinner inner rfl written
        · rfl
      | literal _ | capture _ _ _ =>
        simp [Segment.write, Segment.places, Filling.writeAll, Filling.option_singleton]
      | choice _ | bare => rfl
    rw [write, places, Filling.writeAll_append, hfirst, ih]

namespace Segments

theorem places_append (filling : Filling) (a b : Segments) :
    places filling (a ++ b) = places filling a ++ places filling b := by
  induction a with
  | nil => rfl
  | cons segment a ih => rw [List.cons_append, places, places, ih, List.append_assoc]

theorem ne_nil_of_mem_places {filling : Filling} {segments : Segments} (h : HasOptions segments)
    {options : List Text} (hmem : options ∈ places filling segments) : options ≠ [] := by
  induction segments using nestedInduction with
  | nil => cases hmem
  | cons segment rest hinner ih =>
    obtain ⟨hsegment, hrest⟩ := hasOptions_cons.1 h
    rcases List.mem_append.1 hmem with hmem | hmem
    · cases segment with
      | group inner =>
        rw [Segment.places] at hmem
        split at hmem
        · exact hinner inner rfl (hasOptions_group.1 hsegment) hmem
        · cases hmem
      | literal _ | capture _ _ _ =>
        obtain rfl := List.mem_singleton.1 hmem
        exact List.cons_ne_nil _ _
      | choice _ =>
        obtain rfl := List.mem_singleton.1 hmem
        exact hasOptions_choice.1 hsegment
      | bare => cases hmem
    · exact ih hrest hmem

end Segments

/-- A scheme that a filling can have: it is not empty and holds neither a mark nor a question
mark. -/
structure Filling.IsSchemed (filling : Filling) : Prop where
  ne_nil : filling.scheme ≠ []
  mark : ¬ schemeMark <:+: filling.scheme
  question : '?' ∉ filling.scheme

namespace Filling.IsSchemed

variable {filling : Filling}

/-- Within the scheme, the longest option that continues it is written. -/
theorem option_eq_getD (h : filling.IsSchemed) {written left : Text} (options : List Text)
    (hscheme : filling.scheme = written ++ left) : filling.option written options =
      ((longestFirst options).find? (·.isPrefixOf left)).getD (options.headD []) := by
  have hincludes : ¬ written.includes schemeMark = true := by
    intro hmark
    refine h.mark ((Text.includes_iff.1 hmark).trans ?_)
    rw [hscheme]
    exact (List.prefix_append written left).isInfix
  have hempty : ¬ (filling.scheme.isEmpty || written.includes schemeMark) = true := by
    simp [h.ne_nil, hincludes]
  have hfits : (fun option => (written ++ option).isPrefixOf filling.scheme) =
      fun option => option.isPrefixOf left := by
    funext option
    rw [hscheme, Bool.eq_iff_iff, List.isPrefixOf_iff_prefix, List.isPrefixOf_iff_prefix,
      List.prefix_append_right_inj]
  rw [option, if_neg hempty, hfits]

end Filling.IsSchemed

theorem prefix_append_querySuffix {t u params : Text} (h : '?' ∉ t) :
    t <+: u ++ Schema.querySuffix params ↔ t <+: u := by
  cases params with
  | nil => simp [Schema.querySuffix]
  | cons c params =>
    constructor
    · intro hbegins
      apply List.prefix_of_prefix_length_le hbegins (List.prefix_append u _)
      refine Decidable.byContradiction fun hlong => h ?_
      have hshort : (u ++ ['?']).length ≤ t.length := by
        rw [List.length_append, List.length_singleton]
        omega
      have hquestion : u ++ ['?'] <+: u ++ Schema.querySuffix (c :: params) :=
        (List.prefix_append_right_inj u).2 ⟨c :: params, rfl⟩
      have hsub := List.prefix_of_prefix_length_le hquestion hbegins hshort
      exact hsub.subset (List.mem_append_right _ (List.mem_singleton.2 rfl))
    · intro hbegins
      exact hbegins.trans (List.prefix_append u _)

namespace Filling.IsSchemed

variable {filling : Filling}

/-- The output begins with the scheme and the mark exactly if the places complete the scheme. -/
theorem restores_iff (h : filling.IsSchemed) {places : List (List Text)} {written left : Text}
    (params : Text) (hplaces : ∀ options ∈ places, options ≠ [])
    (hscheme : filling.scheme = written ++ left) :
    filling.scheme ++ schemeMark <+: filling.writeAll places written ++ Schema.querySuffix params ↔
      Restores places left := by
  have hquestion : '?' ∉ filling.scheme ++ schemeMark := by
    intro hmem
    rcases List.mem_append.1 hmem with hmem | hmem
    · exact h.question hmem
    · exact absurd hmem (by decide)
  rw [prefix_append_querySuffix hquestion]
  induction places generalizing written left with
  | nil =>
    rw [writeAll, Restores, iff_false, hscheme]
    intro hbegins
    have hlength := hbegins.length_le
    simp only [List.length_append, schemeMark, List.length_cons, List.length_nil] at hlength
    omega
  | cons options rest ih =>
    have hrest : ∀ options ∈ rest, options ≠ [] :=
      fun options' hmem => hplaces options' (List.mem_cons_of_mem options hmem)
    rw [writeAll, h.option_eq_getD options hscheme]
    cases hfound : (longestFirst options).find? (·.isPrefixOf left) with
    | some option =>
      have hfits : option.isPrefixOf left = true := by simpa using List.find?_some hfound
      obtain ⟨left', rfl⟩ := List.isPrefixOf_iff_prefix.1 hfits
      rw [Option.getD_some, restores_cons_of_some hfound]
      exact ih hrest (by rw [hscheme, List.append_assoc])
    | none =>
      have hbeyond : ¬ written ++ options.headD [] <+: filling.scheme := by
        rw [hscheme, List.prefix_append_right_inj]
        intro hfits
        have hmem : options.headD [] ∈ options := by
          cases options with
          | nil => exact absurd rfl (hplaces [] List.mem_cons_self)
          | cons option options => exact List.mem_cons_self
        exact List.find?_eq_none.1 hfound _ ((longestFirst_perm options).mem_iff.2 hmem)
          (List.isPrefixOf_iff_prefix.2 hfits)
      rw [Option.getD_none, restores_cons_of_none hfound,
        filling.writeAll_eq_of_not_prefix rest hbeyond, hscheme, List.append_assoc, List.append_assoc,
        List.prefix_append_right_inj]

end Filling.IsSchemed

end DsnBinding
