import DsnBinding.Proofs.Template.Neighbours
import DsnBinding.Proofs.Text

/-!
The first token of a text. A token that is not faulty takes a part of the text, which is as long as
a token of its kind can be, and the scanner goes on behind that part. So a text that begins with
such a part has this token first, and every other text has a faulty token first.
-/
namespace DsnBinding.Template

/-- A run of characters of a kind ends in front of the text. -/
def EndsBefore (kind : Char → Bool) (behind : Text) : Prop := ∀ c ∈ behind.head?, kind c = false

/-- A token at an offset takes a text from the text behind it. -/
inductive Token.Takes (offset : Nat) : Token → Text → Text → Prop where
  | literal {run behind : Text} (hne : run ≠ []) (hplain : ∀ c ∈ run, isPlain c = true)
      (hend : EndsBefore isPlain behind) : Takes offset (.literal run) run behind
  | capture {name behind : Text} (hname : isIdentifier name = true)
      (hend : EndsBefore isNameChar behind) :
      Takes offset (.capture name offset) ('$' :: name) behind
  | choice {body : Text} (behind : Text) (hne : body ≠ [])
      (hbody : ∀ c ∈ body, isSpecial c = false) :
      Takes offset (.choice (optionsOf body)) ('(' :: body ++ [')']) behind
  | opening (behind : Text) : Takes offset (.opening offset) ['['] behind
  | closing (behind : Text) : Takes offset (.closing offset) [']'] behind
  | query (behind : Text) : Takes offset (.query offset behind.isEmpty) ['?'] behind

theorem endsBefore_nil (kind : Char → Bool) : EndsBefore kind [] := by
  intro c hc
  cases hc

theorem endsBefore_cons {kind : Char → Bool} {c : Char} (hc : kind c = false) (t : Text) :
    EndsBefore kind (c :: t) := by
  intro d hd
  obtain rfl := Option.some.inj hd
  exact hc

theorem endsBefore_dropWhile (kind : Char → Bool) (t : Text) :
    EndsBefore kind (t.dropWhile kind) := by
  intro c hc
  have hhead := List.head?_dropWhile_not kind t
  rw [Option.mem_def] at hc
  rw [hc] at hhead
  exact hhead

theorem isSpecial_of_isPlain {c : Char} (h : isPlain c = true) : isSpecial c = false := by
  simpa using (Bool.and_eq_true_iff.1 h).1

theorem isPlain_of_isNameChar {c : Char} (h : isNameChar c = true) : isPlain c = true := by
  rw [isPlain_iff]
  refine ⟨?_, ?_, ?_, ?_, ?_, ?_⟩ <;> rintro rfl <;> exact absurd h (by decide)

theorem isNameChar_of_isIdentifier {name : Text} (h : isIdentifier name = true) :
    ∀ c ∈ name, isNameChar c = true := by
  cases name with
  | nil => cases h
  | cons c name =>
    obtain ⟨hstart, hrest⟩ := Bool.and_eq_true_iff.1 h
    intro d hd
    rcases List.mem_cons.1 hd with rfl | hd
    · rw [isNameChar, hstart]
      rfl
    · exact List.all_eq_true.1 hrest d hd

theorem EndsBefore.append {kind : Char → Bool} {t behind : Text} (h : EndsBefore kind t)
    (hbehind : EndsBefore kind behind) : EndsBefore kind (t ++ behind) := by
  cases t with
  | nil => exact hbehind
  | cons c t => exact h

theorem EndsBefore.of_append {kind : Char → Bool} {t behind : Text}
    (h : EndsBefore kind (t ++ behind)) : EndsBefore kind t := by
  cases t with
  | nil => exact endsBefore_nil kind
  | cons c t => exact h

theorem EndsBefore.of_isPlain {t : Text} (h : EndsBefore isPlain t) : EndsBefore isNameChar t := by
  intro c hc
  have hplain := h c hc
  cases hname : isNameChar c with
  | false => rfl
  | true =>
    rw [isPlain_of_isNameChar hname] at hplain
    cases hplain

/-- A run that ends where the text goes on otherwise is the first run of the text. -/
theorem takeWhile_append {kind : Char → Bool} {run behind : Text} (hrun : ∀ c ∈ run, kind c = true)
    (hend : EndsBefore kind behind) : (run ++ behind).takeWhile kind = run := by
  rw [List.takeWhile_append_of_pos hrun]
  cases behind with
  | nil => simp
  | cons c behind =>
    have hc : kind c = false := hend c rfl
    simp [hc]

theorem leadingName_append {name behind : Text} (hname : isIdentifier name = true)
    (hend : EndsBefore isNameChar behind) : leadingName (name ++ behind) = name := by
  cases name with
  | nil => cases hname
  | cons c name =>
    obtain ⟨hstart, hrest⟩ := Bool.and_eq_true_iff.1 hname
    have hrun := takeWhile_append (List.all_eq_true.1 hrest) hend
    rw [List.cons_append, leadingName, if_pos hstart, hrun]

/-- The leading name is an identifier, and the text behind it does not go on with it. -/
theorem leadingName_cases (t : Text) :
    leadingName t = [] ∨
      isIdentifier (leadingName t) = true ∧ ∃ behind, t = leadingName t ++ behind ∧
        EndsBefore isNameChar behind := by
  cases t with
  | nil => exact Or.inl rfl
  | cons c t =>
    rw [leadingName]
    by_cases hstart : isNameStart c = true
    · rw [if_pos hstart]
      refine Or.inr ⟨?_, t.dropWhile isNameChar, ?_, endsBefore_dropWhile isNameChar t⟩
      · rw [isIdentifier, hstart, List.all_takeWhile]
        rfl
      · rw [List.cons_append, List.takeWhile_append_dropWhile]
    · exact Or.inl (if_neg hstart)

theorem not_mem_of_isSpecial {c : Char} (hc : isSpecial c = true) {body : Text}
    (h : ∀ d ∈ body, isSpecial d = false) : c ∉ body := by
  intro hmem
  rw [h c hmem] at hc
  cases hc

theorem choiceToken_append {body : Text} (offset : Nat) (behind : Text) (hne : body ≠ [])
    (hbody : ∀ c ∈ body, isSpecial c = false) :
    choiceToken offset (body ++ ')' :: behind) = .choice (optionsOf body) := by
  have hclosed : ')' ∈ body ++ ')' :: behind := by simp
  have hbefore : Text.before ')' (body ++ ')' :: behind) = body :=
    Text.before_append_cons (not_mem_of_isSpecial rfl hbody) behind
  have hnone : body.find? isSpecial = none := by simpa using hbody
  have hempty : body.isEmpty = false := by simpa using hne
  simp [choiceToken, hclosed, hbefore, hnone, hempty]

/-- What begins a choice is a body without special characters, or it is faulty. -/
theorem choiceToken_eq (offset : Nat) (t : Text) :
    (∃ fault, choiceToken offset t = .faulty fault) ∨
      ∃ body behind, t = body ++ ')' :: behind ∧ body ≠ [] ∧ ∀ c ∈ body, isSpecial c = false := by
  unfold choiceToken
  dsimp only
  split
  · exact Or.inl ⟨_, rfl⟩
  · rename_i hclosed
    split
    · exact Or.inl ⟨_, rfl⟩
    · rename_i hnone
      split
      · exact Or.inl ⟨_, rfl⟩
      · rename_i hempty
        have hmem : ')' ∈ t := Decidable.not_not.1 hclosed
        refine Or.inr ⟨Text.before ')' t, Text.after ')' t, ?_, ?_, ?_⟩
        · exact (Text.before_append_after hmem).symm
        · simpa using hempty
        · simpa using hnone

namespace Token.Takes

variable {offset : Nat} {token : Token} {taken behind : Text}

theorem ne_nil (h : token.Takes offset taken behind) : taken ≠ [] := by
  cases h with
  | literal hne _ _ => exact hne
  | capture _ _ | choice _ _ _ | opening _ | closing _ | query _ => exact List.cons_ne_nil _ _

/-- The scanner begins with the token and goes on behind what it takes. -/
theorem scanFrom_eq (h : token.Takes offset taken behind) :
    scanFrom offset 0 (taken ++ behind) =
      token :: scanFrom (offset + taken.length) 0 behind := by
  cases h with
  | literal hne hplain hend =>
    obtain ⟨c, run, rfl⟩ := List.exists_cons_of_ne_nil hne
    obtain ⟨hsigil, hparen, hopen, hclose, hend', hquery⟩ :=
      isPlain_iff.1 (hplain c List.mem_cons_self)
    have hrun : (run ++ behind).takeWhile isPlain = run :=
      takeWhile_append (fun d hd => hplain d (List.mem_cons_of_mem c hd)) hend
    rw [List.cons_append, scanFrom, if_neg hsigil, if_neg hparen, if_neg hopen, if_neg hclose,
      if_neg hend', if_neg hquery]
    simp only [hrun]
    rw [scanFrom_eq_drop, List.drop_left, List.length_cons, Nat.add_assoc, Nat.add_comm 1]
  | @capture name _ hname hend =>
    have hne : name.isEmpty = false := by cases name <;> [cases hname; rfl]
    rw [List.cons_append, scanFrom, if_pos rfl]
    simp only [leadingName_append hname hend, hne]
    rw [scanFrom_eq_drop, List.drop_left, List.length_cons, Nat.add_assoc, Nat.add_comm 1]
    rfl
  | @choice body _ hne hbody =>
    have hskip : (body ++ [')']).length = (Text.before ')' (body ++ ')' :: behind)).length + 1 := by
      rw [Text.before_append_cons (not_mem_of_isSpecial rfl hbody), List.length_append]
      rfl
    have hdrop : (body ++ ')' :: behind).drop (body ++ [')']).length = behind := by
      have hsplit : body ++ ')' :: behind = (body ++ [')']) ++ behind := List.append_cons ..
      rw [hsplit, List.drop_left]
    rw [List.cons_append, List.cons_append, List.append_assoc, List.singleton_append, scanFrom,
      if_neg (by decide), if_pos rfl, choiceToken_append offset behind hne hbody, ← hskip,
      scanFrom_eq_drop, hdrop, List.length_cons, Nat.add_assoc, Nat.add_comm 1]
  | opening => rfl
  | closing => rfl
  | query => rfl

end Token.Takes

/-- A text that is not empty begins with a token that takes a part of it, or with a faulty one. -/
theorem takes_or_faulty (offset : Nat) (c : Char) (t : Text) :
    (∃ fault tokens, scanFrom offset 0 (c :: t) = .faulty fault :: tokens) ∨
      ∃ token taken behind, Token.Takes offset token taken behind ∧ c :: t = taken ++ behind := by
  by_cases hplain : isPlain c = true
  · refine Or.inr ⟨_, c :: t.takeWhile isPlain, t.dropWhile isPlain, .literal ?_ ?_ ?_, ?_⟩
    · exact List.cons_ne_nil _ _
    · intro d hd
      rcases List.mem_cons.1 hd with rfl | hd
      · exact hplain
      · exact List.all_eq_true.1 List.all_takeWhile d hd
    · exact endsBefore_dropWhile isPlain t
    · rw [List.cons_append, List.takeWhile_append_dropWhile]
  · rcases eq_of_not_isPlain (Bool.eq_false_iff.2 hplain) with rfl | rfl | rfl | rfl | rfl | rfl
    · rcases leadingName_cases t with hnone | ⟨hname, behind, heq, hend⟩
      · refine Or.inl ⟨⟨offset, .missingName⟩, scanFrom (offset + 1) 0 t, ?_⟩
        rw [scanFrom, if_pos rfl, hnone]
        rfl
      · exact Or.inr ⟨_, _, behind, .capture hname hend, congrArg _ heq⟩
    · rcases choiceToken_eq offset t with ⟨fault, hfault⟩ | ⟨body, behind, rfl, hne, hbody⟩
      · refine Or.inl ⟨fault, scanFrom (offset + 1) ((Text.before ')' t).length + 1) t, ?_⟩
        rw [scanFrom, if_neg (by decide), if_pos rfl, hfault]
      · refine Or.inr ⟨_, _, behind, .choice behind hne hbody, ?_⟩
        simp only [List.cons_append, List.append_assoc, List.nil_append]
    · exact Or.inr ⟨_, _, t, .opening t, rfl⟩
    · exact Or.inr ⟨_, _, t, .closing t, rfl⟩
    · exact Or.inl ⟨_, _, rfl⟩
    · exact Or.inr ⟨_, _, t, .query t, rfl⟩

end DsnBinding.Template
