import DsnBinding.Proofs.Distinct
import DsnBinding.Proofs.Template.Scanning
import Mathlib.Data.List.Basic

/-!
The items that templates are made of, and the segments that mirror them. There is one segment for
each item, except that the plain characters that follow one another are one literal.
-/
namespace DsnBinding

mutual

/-- The segment as it would be at the beginning of a template. -/
def Segment.withoutOffsets : Segment → Segment
  | .capture name stops _ => .capture name stops 0
  | .group inner => .group (Segments.withoutOffsets inner)
  | .literal text => .literal text
  | .choice options => .choice options
  | .bare => .bare

def Segments.withoutOffsets : Segments → Segments
  | [] => []
  | segment :: rest => segment.withoutOffsets :: Segments.withoutOffsets rest

end

namespace Segments

/-- Where the captures stand, in the order of the template. -/
def offsets (segments : Segments) : List Nat := (leaves segments).filterMap Segment.captureOffset?

/-- A plain character is part of the literal that follows it, or a literal of its own. -/
def withChar (c : Char) : Segments → Segments
  | .literal text :: rest => .literal (c :: text) :: rest
  | segments => .literal [c] :: segments

theorem isLiteral_head?_cons {segment : Segment} (h : segment.isLiteral = false) (rest : Segments) :
    ∀ first ∈ (segment :: rest).head?, first.isLiteral = false := by
  intro first hfirst
  obtain rfl := Option.some.inj hfirst
  exact h

theorem withChar_ne_nil (c : Char) (segments : Segments) : segments.withChar c ≠ [] := by
  unfold withChar
  split <;> exact List.cons_ne_nil _ _

theorem offsets_cons (segment : Segment) (rest : Segments) :
    offsets (segment :: rest) =
      segment.leaves.filterMap Segment.captureOffset? ++ offsets rest := by
  rw [offsets, leaves, List.filterMap_append]
  rfl

theorem foldr_withChar {run : Text} {segments : Segments} (hne : run ≠ [])
    (hhead : ∀ segment ∈ segments.head?, segment.isLiteral = false) :
    run.foldr withChar segments = .literal run :: segments := by
  induction run with
  | nil => exact absurd rfl hne
  | cons c run ih =>
    cases run with
    | nil =>
      cases segments with
      | nil => rfl
      | cons segment rest =>
        cases segment with
        | literal text => exact absurd (hhead _ rfl) (by simp [Segment.isLiteral])
        | capture _ _ _ | choice _ | group _ | bare => rfl
    | cons d run => rw [List.foldr_cons, ih (List.cons_ne_nil d run), withChar]

end Segments

namespace Template

inductive Item where
  | plain (c : Char)
  | capture (name : Text)
  | choice (body : Text)
  | group (items : List Item)
  deriving Inhabited

namespace Item

/-- What a sequence of items is written as. A name is as long as it can be. -/
inductive Spells : List Item → Text → Prop where
  | nil : Spells [] []
  | plain {c : Char} {items : List Item} {t : Text} (hc : isPlain c = true) (h : Spells items t) :
      Spells (.plain c :: items) (c :: t)
  | capture {name : Text} {items : List Item} {t : Text} (hname : isIdentifier name = true)
      (hend : EndsBefore isNameChar t) (h : Spells items t) :
      Spells (.capture name :: items) ('$' :: name ++ t)
  | choice {body : Text} {items : List Item} {t : Text} (hne : body ≠ [])
      (hbody : ∀ c ∈ body, isSpecial c = false) (h : Spells items t) :
      Spells (.choice body :: items) ('(' :: body ++ [')'] ++ t)
  | group {inner items : List Item} {u t : Text} (hne : inner ≠ []) (hinner : Spells inner u)
      (h : Spells items t) : Spells (.group inner :: items) ('[' :: u ++ ']' :: t)

/-- The options that the body of a choice lists, or the body as one that may be left out. -/
def options (body : Text) : List Text :=
  if '|' ∈ body then (body.splitOn '|').eraseDups else [body, []]

mutual

def mirroredBefore (rest : Segments) : Item → Segments
  | .plain c => rest.withChar c
  | .capture name => .capture name [] 0 :: rest
  | .choice body => .choice (options body) :: rest
  | .group items => .group (mirrored items) :: rest

def mirrored : List Item → Segments
  | [] => []
  | item :: items => item.mirroredBefore (mirrored items)

end

end Item

theorem Item.mirrored_ne_nil {items : List Item} (h : items ≠ []) : mirrored items ≠ [] := by
  obtain ⟨item, items, rfl⟩ := List.exists_cons_of_ne_nil h
  cases item with
  | plain c => exact Segments.withChar_ne_nil c (mirrored items)
  | capture _ | choice _ | group _ => exact List.cons_ne_nil _ _

section Options

theorem optionsOf_eq (body : Text) : optionsOf body = Item.options body := rfl

/-- The options of a body hold no bars, and nothing that the body does not hold. -/
theorem mem_optionsOf {body option : Text} (h : option ∈ optionsOf body) :
    '|' ∉ option ∧ ∀ c ∈ option, c ∈ body := by
  unfold optionsOf at h
  split at h
  · exact Text.mem_splitOn (List.mem_eraseDups.1 h)
  · rename_i hbar
    rcases List.mem_cons.1 h with rfl | h
    · exact ⟨hbar, fun _ hc => hc⟩
    · obtain rfl := List.mem_singleton.1 h
      exact ⟨List.not_mem_nil, nofun⟩

theorem nodup_optionsOf {body : Text} (hne : body ≠ []) : (optionsOf body).Nodup := by
  unfold optionsOf
  split
  · exact nodup_eraseDups _
  · simpa using hne

end Options

end Template

end DsnBinding
