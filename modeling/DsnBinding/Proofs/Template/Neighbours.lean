import DsnBinding.Proofs.Template.Outline
import Mathlib.Data.List.Chain

/-!
Literals of a template are never neighbours. A literal token takes the whole run of plain
characters, so that the token behind it is of another kind, and a query separator that is dropped
ends the template. Nesting keeps the tokens of a sequence in their order, and hence two literals stand side
by side neither in an outline nor in one of its groups.
-/
namespace DsnBinding

def Segment.isLiteral : Segment → Bool
  | .literal _ => true
  | .capture .. | .choice _ | .group _ | .bare => false

/-- No two literals stand side by side, neither in the sequence nor in one of its groups. -/
structure Segments.IsSpaced (segments : Segments) : Prop where
  isChain : segments.IsChain fun a b => a.isLiteral = true → b.isLiteral = false
  groups : ∀ inner ∈ Segments.groups segments,
    inner.IsChain fun a b => a.isLiteral = true → b.isLiteral = false

namespace Segments

theorem groups_append (s t : Segments) : groups (s ++ t) = groups s ++ groups t := by
  induction s with
  | nil => rfl
  | cons segment s ih => simp [groups, ih]

theorem isSpaced_nil : IsSpaced [] := ⟨List.isChain_nil, by simp [groups]⟩

/-- A segment other than a group can stand behind a sequence unless both ends are literals. -/
theorem IsSpaced.append_leaf {segments : Segments} {segment : Segment} (h : IsSpaced segments)
    (hleaf : segment.groups = [])
    (hlast : ∀ a ∈ segments.getLast?, a.isLiteral = true → segment.isLiteral = false) :
    IsSpaced (segments ++ [segment]) := by
  refine ⟨List.isChain_append.2 ⟨h.isChain, List.isChain_singleton segment, ?_⟩, ?_⟩
  · simpa using hlast
  · simpa [groups_append, Segments.groups, hleaf] using h.groups

theorem IsSpaced.append_group {segments inner : Segments} (h : IsSpaced segments)
    (hinner : IsSpaced inner) : IsSpaced (segments ++ [.group inner]) := by
  refine ⟨List.isChain_append.2 ⟨h.isChain, List.isChain_singleton _, ?_⟩, ?_⟩
  · simp [Segment.isLiteral]
  · intro inner' hmem
    simp only [groups_append, Segments.groups, Segment.groups, List.append_nil, List.mem_append,
      List.mem_cons] at hmem
    rcases hmem with hmem | rfl | hmem
    · exact h.groups inner' hmem
    · exact hinner.isChain
    · exact hinner.groups inner' hmem

end Segments

namespace Template

def Token.isLiteral : Token → Bool
  | .literal _ => true
  | .capture .. | .choice _ | .opening _ | .closing _ | .query .. | .faulty _ => false

/-- A token can have another one right behind it. -/
structure Token.CanPrecede (a b : Token) : Prop where
  literal : a.isLiteral = true → b.isLiteral = false
  query : ∀ offset, a ≠ .query offset true

theorem Token.canPrecede_of_ne {a b : Token} (hliteral : a.isLiteral = false)
    (hquery : ∀ offset, a ≠ .query offset true) : a.CanPrecede b :=
  ⟨fun h => absurd h (by simp [hliteral]), hquery⟩

theorem choiceToken_cases (offset : Nat) (t : Text) :
    (∃ options, choiceToken offset t = .choice options) ∨
      ∃ fault, choiceToken offset t = .faulty fault := by
  unfold choiceToken
  dsimp only
  split
  · exact Or.inr ⟨_, rfl⟩
  · split
    · exact Or.inr ⟨_, rfl⟩
    · split
      · exact Or.inr ⟨_, rfl⟩
      · exact Or.inl ⟨_, rfl⟩

theorem scanFrom_eq_drop (offset skip : Nat) (t : Text) :
    scanFrom offset skip t = scanFrom (offset + skip) 0 (t.drop skip) := by
  induction t generalizing offset skip with
  | nil => simp [scanFrom]
  | cons c t ih =>
    cases skip with
    | zero => rfl
    | succ skip =>
      rw [scanFrom, ih, List.drop_succ_cons]
      simp only [Nat.add_assoc, Nat.add_comm 1 skip]

theorem isPlain_iff {c : Char} :
    isPlain c = true ↔ c ≠ '$' ∧ c ≠ '(' ∧ c ≠ '[' ∧ c ≠ ']' ∧ c ≠ ')' ∧ c ≠ '?' := by
  simp [isPlain, isSpecial]
  tauto

theorem eq_of_not_isPlain {c : Char} (hc : isPlain c = false) :
    c = '$' ∨ c = '(' ∨ c = '[' ∨ c = ']' ∨ c = ')' ∨ c = '?' := by
  by_contra hnone
  simp only [not_or] at hnone
  rw [isPlain_iff.2 hnone] at hc
  cases hc

theorem isLiteral_head?_scanFrom {offset : Nat} {c : Char} {t : Text} (hc : isPlain c = false)
    {token : Token} (h : token ∈ (scanFrom offset 0 (c :: t)).head?) :
    token.isLiteral = false := by
  rcases eq_of_not_isPlain hc with rfl | rfl | rfl | rfl | rfl | rfl <;> obtain rfl := Option.some.inj h
  · split <;> rfl
  · rcases choiceToken_cases offset t with ⟨_, heq⟩ | ⟨_, heq⟩ <;> rw [heq] <;> rfl
  · rfl
  · rfl
  · rfl
  · rfl

theorem isLiteral_head?_scanFrom_takeWhile {offset : Nat} {t : Text} {token : Token}
    (h : token ∈ (scanFrom offset (t.takeWhile isPlain).length t).head?) :
    token.isLiteral = false := by
  have hdrop : t.drop (t.takeWhile isPlain).length = t.dropWhile isPlain := by
    conv_lhs => arg 2; rw [← List.takeWhile_append_dropWhile (p := isPlain) (l := t)]
    rw [List.drop_left]
  have hhead := List.head?_dropWhile_not isPlain t
  rw [scanFrom_eq_drop, hdrop] at h
  cases hrest : t.dropWhile isPlain with
  | nil =>
    rw [hrest, scanFrom] at h
    cases h
  | cons c rest =>
    rw [hrest] at h hhead
    exact isLiteral_head?_scanFrom hhead h

theorem isChain_scanFrom (offset skip : Nat) (t : Text) :
    (scanFrom offset skip t).IsChain Token.CanPrecede := by
  fun_induction scanFrom offset skip t with
  | case1 => exact List.isChain_nil
  | case2 offset skip c t ih => exact ih
  | case3 offset t name token ih =>
    refine List.isChain_cons.2 ⟨fun b _ => ?_, ih⟩
    unfold token
    split
    · exact Token.canPrecede_of_ne rfl (by simp)
    · exact Token.canPrecede_of_ne rfl (by simp)
  | case4 offset t _ ih =>
    refine List.isChain_cons.2 ⟨fun b _ => ?_, ih⟩
    rcases choiceToken_cases offset t with ⟨_, heq⟩ | ⟨_, heq⟩ <;> rw [heq] <;>
      exact Token.canPrecede_of_ne rfl (by simp)
  | case5 offset t _ _ ih | case6 offset t _ _ _ ih | case7 offset t _ _ _ _ ih =>
    exact List.isChain_cons.2 ⟨fun b _ => Token.canPrecede_of_ne rfl (by simp), ih⟩
  | case8 offset t _ _ _ _ _ ih =>
    refine List.isChain_cons.2 ⟨fun b hb => Token.canPrecede_of_ne rfl ?_, ih⟩
    intro offset' heq
    have hlast : t.isEmpty = true := (Token.query.inj heq).2
    rw [List.isEmpty_iff.1 hlast, scanFrom] at hb
    cases hb
  | case9 offset c t _ _ _ _ _ _ run ih =>
    refine List.isChain_cons.2 ⟨fun b hb => ⟨fun _ => ?_, by simp⟩, ih⟩
    exact isLiteral_head?_scanFrom_takeWhile hb

/-- A sequence can go on with the given tokens without a literal next to a literal. -/
def CanContinue (segments : Segments) (tokens : List Token) : Prop :=
  ∀ segment ∈ segments.getLast?, segment.isLiteral = true →
    ∀ token ∈ tokens.head?, token.isLiteral = false

theorem canContinue_nil (tokens : List Token) : CanContinue [] tokens := by
  simp [CanContinue]

theorem canContinue_append {segments : Segments} {segment : Segment} {token : Token}
    {tokens : List Token} (hsame : segment.isLiteral = true → token.isLiteral = true)
    (h : (token :: tokens).IsChain Token.CanPrecede) :
    CanContinue (segments ++ [segment]) tokens := by
  intro last hlast hliteral next hnext
  rw [List.getLast?_concat] at hlast
  obtain rfl := Option.some.inj hlast
  exact ((List.isChain_cons.1 h).1 next hnext).literal (hsame hliteral)

theorem isSpaced_nest {stack : List OpenGroup} {segments result : Segments} {tokens : List Token}
    (h : nest stack segments tokens = .ok result) (hstack : ∀ g ∈ stack, g.preceding.IsSpaced)
    (hsegments : segments.IsSpaced) (htokens : tokens.IsChain Token.CanPrecede)
    (hcontinue : CanContinue segments tokens) : result.IsSpaced := by
  fun_induction nest stack segments tokens with
  | case1 segments =>
    obtain rfl := Except.ok.inj h
    exact hsegments
  | case2 => cases h
  | case3 stack segments text rest ih =>
    refine ih h hstack (hsegments.append_leaf rfl ?_) htokens.tail
      (canContinue_append (fun _ => rfl) htokens)
    intro last hlast hliteral
    exact absurd (hcontinue last hlast hliteral _ rfl) (by simp [Token.isLiteral])
  | case4 stack segments name offset rest ih =>
    exact ih h hstack (hsegments.append_leaf rfl fun _ _ _ => rfl) htokens.tail
      (canContinue_append (by simp [Segment.isLiteral]) htokens)
  | case5 stack segments options rest ih =>
    exact ih h hstack (hsegments.append_leaf rfl fun _ _ _ => rfl) htokens.tail
      (canContinue_append (by simp [Segment.isLiteral]) htokens)
  | case6 stack segments offset rest ih =>
    refine ih h ?_ Segments.isSpaced_nil htokens.tail (canContinue_nil rest)
    intro g hg
    rcases List.mem_cons.1 hg with rfl | hg
    · exact hsegments
    · exact hstack g hg
  | case7 => cases h
  | case8 => cases h
  | case9 innermost stack segments offset rest _ ih =>
    have hpreceding : innermost.preceding.IsSpaced := hstack innermost List.mem_cons_self
    exact ih h (fun g hg => hstack g (List.mem_cons_of_mem _ hg))
      (hpreceding.append_group hsegments) htokens.tail
      (canContinue_append (by simp [Segment.isLiteral]) htokens)
  | case10 stack segments offset last rest hlast ih =>
    have hlast : last = true := (Bool.and_eq_true_iff.1 hlast).2
    refine ih h hstack hsegments htokens.tail ?_
    intro _ _ _ next hnext
    exact absurd (congrArg (Token.query offset) hlast)
      (((List.isChain_cons.1 htokens).1 next hnext).query offset)
  | case11 => cases h
  | case12 => cases h

theorem isSpaced_outline {template : Text} {segments : Segments}
    (h : outline template = .ok segments) : segments.IsSpaced :=
  isSpaced_nest h (fun _ hg => absurd hg List.not_mem_nil) Segments.isSpaced_nil
    (isChain_scanFrom 0 0 template) (canContinue_nil _)

end Template

end DsnBinding
