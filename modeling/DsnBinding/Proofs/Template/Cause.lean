import DsnBinding.Proofs.Template.Grammar

/-!
Where reading a template fails. The text in front of a fault can be read and be completed to a
template, and at the fault stands what the fault is about. A group that is closed too early or never
is known only later, so that what is read inside open groups is described from its end: it either
holds the fault, or closes some of the groups and goes on to the end of the template.
-/
namespace DsnBinding.Template

/-- What items are written as, with a query separator behind it or without one. -/
def IsWellFormed (template : Text) : Prop :=
  ∃ items t, Item.Spells items t ∧ (template = t ∨ template = t ++ ['?'])

theorem isWellFormed_iff {template : Text} :
    IsWellFormed template ↔ ∃ segments, outline template = .ok segments := by
  refine ⟨?_, fun ⟨_, houtline⟩ => Item.exists_spells_of_outline houtline⟩
  rintro ⟨items, t, hspells, htemplate⟩
  obtain ⟨segments, houtline, -⟩ := hspells.exists_outline htemplate
  exact ⟨segments, houtline⟩

/-- What a template can begin with. -/
def IsBeginning (t : Text) : Prop := ∃ rest, IsWellFormed (t ++ rest)

/-- What an error is about: its code and its value, the template in front of its offset and the rest
of the template. -/
inductive Cause : String → Text → Text → Text → Prop where
  | missingName {before t : Text} (h : EndsBefore isNameStart t) :
      Cause "invalid_variable" ('$' :: t.take 1) before ('$' :: t)
  | unexpected {before t : Text} {c : Char} (hc : c ∈ [')', ']', '?']) :
      Cause "unexpected_char" [c] before (c :: t)
  | specialInChoice {before body t : Text} {c : Char} (hc : c ∈ ['$', '(', '[', ']'])
      (hbody : ')' ∉ body) (hclosed : ')' ∈ t) :
      Cause "invalid_alternation" [c] (before ++ '(' :: body) (c :: t)
  | emptyChoice {before t : Text} :
      Cause "invalid_alternation" ['(', ')'] before ('(' :: ')' :: t)
  | emptyGroup {before t : Text} : Cause "empty_group" ['[', ']'] before ('[' :: ']' :: t)
  | unclosedChoice {before t : Text} (h : ')' ∉ t) :
      Cause "unterminated_group" ('(' :: t) before ('(' :: t)
  /-- Every group that begins behind the bracket is closed, and nothing else is wrong. -/
  | unclosedGroup {before t : Text} {items : List Item} (h : Item.Spells items t)
      (hopen : IsBeginning (before ++ '[' :: t)) :
      Cause "unterminated_group" ('[' :: t) before ('[' :: t)
  /-- Nothing else is wrong with the template. -/
  | adjacentCaptures {before name t : Text} (hname : isIdentifier name = true)
      (hend : EndsBefore isNameChar t) (h : IsWellFormed (before ++ ('$' :: name ++ t))) :
      Cause "adjacent_variables" name before ('$' :: name ++ t)

theorem Cause.ne_nil {code : String} {value before behind : Text}
    (h : Cause code value before behind) : behind ≠ [] := by
  cases h <;> exact List.cons_ne_nil _ _

/-- A fault has its cause where it is found, whatever the template has in front. A group can be taken
to be open only if the whole template can be completed. -/
def Fault.IsCausedBy (fault : Fault) (before behind : Text) : Prop :=
  ∀ outer, (fault.complaint = .unclosedGroup → IsBeginning (outer ++ before ++ behind)) →
    Cause fault.complaint.code (Error.value ⟨behind, ⟨0, fault.complaint⟩⟩) (outer ++ before) behind

theorem Fault.IsCausedBy.append {fault : Fault} {before behind : Text}
    (h : fault.IsCausedBy before behind) (u : Text) : fault.IsCausedBy (u ++ before) behind := by
  intro outer hopen
  rw [← List.append_assoc] at hopen ⊢
  exact h (outer ++ u) hopen

/-- What a text shows behind its first part does not depend on that part. -/
theorem Error.value_append (before behind : Text) (complaint : Complaint) :
    Error.value ⟨before ++ behind, ⟨before.length, complaint⟩⟩ =
      Error.value ⟨behind, ⟨0, complaint⟩⟩ := by
  cases complaint <;> simp [Error.value, Error.offset]

theorem choiceToken_eq_faulty {offset : Nat} {t : Text} {fault : Fault}
    (h : choiceToken offset t = .faulty fault) :
    ∃ u behind, '(' :: t = u ++ behind ∧ fault.offset = offset + u.length ∧
      (u = [] ∨ ∃ body, u = '(' :: body ∧ ∀ c ∈ body, isSpecial c = false) ∧
      fault.complaint ≠ .unclosedGroup ∧ fault.IsCausedBy u behind := by
  unfold choiceToken at h
  dsimp only at h
  split at h
  · rename_i hopen
    obtain rfl := Token.faulty.inj h
    exact ⟨[], _, rfl, rfl, Or.inl rfl, by simp, fun _ _ => .unclosedChoice hopen⟩
  · rename_i hclosed
    have hmem : ')' ∈ t := Decidable.not_not.1 hclosed
    have hsplit : Text.before ')' t ++ ')' :: Text.after ')' t = t := Text.before_append_after hmem
    have hclose : ')' ∉ Text.before ')' t := Text.not_mem_before ')' t
    split at h
    · rename_i c hfind
      obtain rfl := Token.faulty.inj h
      obtain ⟨hc, body, rest, hbody, hplain⟩ := List.find?_eq_some_iff_append.1 hfind
      have hrun : (Text.before ')' t).takeWhile (!isSpecial ·) = body := by
        rw [hbody]
        exact takeWhile_append hplain (endsBefore_cons (by simpa using hc) rest)
      rw [hbody] at hclose
      have hkind : c ∈ ['$', '(', '[', ']'] := by
        have hne : c ≠ ')' := fun e => hclose (by simp [e])
        simpa [isSpecial, hne] using hc
      refine ⟨'(' :: body, c :: (rest ++ ')' :: Text.after ')' t), ?_, ?_, Or.inr ⟨body, rfl, ?_⟩,
        by simp, ?_⟩
      · conv_lhs => rw [← hsplit, hbody]
        simp
      · show offset + 1 + _ = _
        rw [hrun, List.length_cons]
        omega
      · intro d hd
        simpa using hplain d hd
      · have hnot : ')' ∉ body := fun hd => hclose (List.mem_append_left _ hd)
        exact fun outer _ => .specialInChoice hkind hnot (by simp)
    · split at h
      · rename_i hempty
        obtain rfl := Token.faulty.inj h
        rw [List.isEmpty_iff.1 hempty] at hsplit
        refine ⟨[], '(' :: t, rfl, rfl, Or.inl rfl, by simp, ?_⟩
        rw [← hsplit]
        exact fun _ _ => .emptyChoice
      · cases h

theorem scanFrom_eq_faulty {offset : Nat} {c : Char} {t : Text} {fault : Fault}
    {tokens : List Token} (h : scanFrom offset 0 (c :: t) = .faulty fault :: tokens) :
    ∃ u behind, c :: t = u ++ behind ∧ fault.offset = offset + u.length ∧
      (u = [] ∨ ∃ body, u = '(' :: body ∧ ∀ c ∈ body, isSpecial c = false) ∧
      fault.complaint ≠ .unclosedGroup ∧ fault.IsCausedBy u behind := by
  rw [scanFrom] at h
  split at h
  · rename_i hc
    subst hc
    obtain ⟨htoken, -⟩ := List.cons.inj h
    split at htoken
    · rename_i hnone
      obtain rfl := Token.faulty.inj htoken
      refine ⟨[], '$' :: t, rfl, rfl, Or.inl rfl, by simp, fun _ _ => .missingName ?_⟩
      intro d hd
      cases t with
      | nil => cases hd
      | cons d' t =>
        obtain rfl := Option.some.inj hd
        cases hstart : isNameStart d' with
        | false => rfl
        | true => simp [leadingName, hstart] at hnone
    · cases htoken
  split at h
  · rename_i hc
    subst hc
    exact choiceToken_eq_faulty (List.cons.inj h).1
  split at h
  · cases h
  split at h
  · cases h
  split at h
  · rename_i hc
    subst hc
    obtain rfl := Token.faulty.inj (List.cons.inj h).1
    exact ⟨[], _, rfl, rfl, Or.inl rfl, by simp, fun _ _ => .unexpected (by decide)⟩
  split at h
  · cases h
  · cases h

namespace Item

/-- A token that spells a segment takes what some items are written as. -/
theorem exists_items {token : Token} {segment : Segment} {offset : Nat} {taken behind : Text}
    (h : token.Takes offset taken behind) (hsegment : token.segment? = some segment) :
    ∃ items, items ≠ [] ∧ ∀ others u, (EndsBefore isNameChar behind → EndsBefore isNameChar u) →
      Spells others u → Spells (items ++ others) (taken ++ u) := by
  cases h with
  | literal hne hplain _ =>
    exact ⟨taken.map .plain, by simpa using hne, fun _ _ _ hspells => hspells.plains hplain⟩
  | capture hname hend =>
    exact ⟨[.capture _], List.cons_ne_nil _ _,
      fun _ _ hu hspells => .capture hname (hu hend) hspells⟩
  | choice _ hne hbody =>
    exact ⟨[.choice _], List.cons_ne_nil _ _, fun _ _ _ hspells => .choice hne hbody hspells⟩
  | opening _ | closing _ | query _ => cases hsegment

/-- A text inside so many open groups that can be completed. -/
def CanComplete (depth : Nat) (started : Prop) (t : Text) : Prop :=
  ∃ rest, EndsBefore isNameChar rest ∧ Completes depth started (t ++ rest)

variable {depth : Nat} {started started' : Prop} {t u behind : Text}

/-- Inside any open groups the template can go on with items and close the groups. -/
theorem exists_completes {items : List Item} (hne : items ≠ []) (depth : Nat) (started : Prop)
    (h : ∀ others u, Spells others u → Spells (items ++ others) (t ++ u)) :
    ∃ rest, Completes depth started (t ++ rest) := by
  have hcloses : ∃ rest, Closes depth rest := by
    induction depth with
    | zero => exact ⟨[], Or.inl rfl⟩
    | succ depth ih =>
      obtain ⟨rest, hrest⟩ := ih
      exact ⟨_, [], [], rest, rfl, .nil, hrest⟩
  obtain ⟨rest, hrest⟩ := hcloses
  refine ⟨rest, items, t, rest, rfl, ?_, hrest, fun _ => Or.inr hne⟩
  simpa using h [] [] .nil

theorem Spells.append {items others : List Item} (h : Spells items t) (hothers : Spells others u)
    (hend : EndsBefore isNameChar u) : Spells (items ++ others) (t ++ u) := by
  induction h with
  | nil => exact hothers
  | plain hc _ ih => exact .plain hc ih
  | @capture name items t hname hname' _ ih =>
    have hspells := Spells.capture hname (hname'.append hend) ih
    simpa using hspells
  | @choice body items t hne hbody _ ih => simpa using Spells.choice hne hbody ih
  | @group inner items v t hne hinner _ _ ih => simpa using Spells.group hne hinner ih

theorem Spells.canComplete {items : List Item} (h : Spells items t) (depth : Nat)
    (started : Prop) : CanComplete depth started t := by
  obtain ⟨rest, hrest⟩ := @exists_completes (t ++ ['-']) (items ++ [.plain '-']) (by simp) depth
    started fun _ _ hspells => by
      simpa using h.append (.plain rfl hspells) (endsBefore_cons rfl _)
  exact ⟨'-' :: rest, endsBefore_cons rfl rest, by simpa using hrest⟩

theorem canComplete_choice {body : Text} (hbody : ∀ c ∈ body, isSpecial c = false) (depth : Nat)
    (started : Prop) : CanComplete depth started ('(' :: body) := by
  have hplain : ∀ c ∈ body ++ ['-'], isSpecial c = false := by
    intro c hc
    rcases List.mem_append.1 hc with hc | hc
    · exact hbody c hc
    · exact List.mem_singleton.1 hc ▸ rfl
  obtain ⟨rest, hrest⟩ := @exists_completes ('(' :: (body ++ ['-']) ++ [')'])
    [.choice (body ++ ['-'])] (List.cons_ne_nil _ _) depth started
    fun _ _ hspells => .choice (by simp) hplain hspells
  exact ⟨'-' :: ')' :: rest, endsBefore_cons rfl _, by simpa using hrest⟩

theorem CanComplete.append {token : Token} {segment : Segment} {offset : Nat} {taken : Text}
    (h : CanComplete depth started' t) (htakes : token.Takes offset taken (t ++ behind))
    (hsegment : token.segment? = some segment) : CanComplete depth started (taken ++ t) := by
  obtain ⟨items, hne, hitems⟩ := exists_items htakes hsegment
  obtain ⟨rest, hrest, hcompletes⟩ := h
  refine ⟨rest, hrest, ?_⟩
  rw [List.append_assoc]
  refine hcompletes.append items hne ?_
  intro others u' behind' heq hspells
  refine hitems others u' (fun hbehind => ?_) hspells
  have hends : EndsBefore isNameChar (t ++ rest) := hbehind.of_append.append hrest
  exact (heq ▸ hends).of_append

theorem CanComplete.group (h : CanComplete (depth + 1) started' t) (hnew : ¬ started') :
    CanComplete depth started ('[' :: t) := by
  obtain ⟨rest, hrest, hcompletes⟩ := h
  exact ⟨rest, hrest, hcompletes.group hnew⟩

theorem CanComplete.closing (h : CanComplete depth started' t) (hstarted : started) :
    CanComplete (depth + 1) started (']' :: t) := by
  obtain ⟨rest, hrest, hcompletes⟩ := h
  exact ⟨rest, hrest, hcompletes.closing hstarted⟩

/-- The rest of a template that closes so many groups and ends with items. -/
def Leaves : Nat → Prop → Text → Prop
  | 0, _, t => ∃ items, Spells items t
  | depth + 1, started, t => ∃ items u behind, t = u ++ ']' :: behind ∧ Spells items u ∧
      (started ∨ items ≠ []) ∧ Leaves depth True behind

theorem Leaves.append {items : List Item} {taken : Text} (h : Leaves depth started' t)
    (hne : items ≠ [])
    (hitems : ∀ others u behind, t = u ++ behind → Spells others u →
      Spells (items ++ others) (taken ++ u)) : Leaves depth started (taken ++ t) := by
  cases depth with
  | zero =>
    obtain ⟨others, hspells⟩ := h
    exact ⟨items ++ others, hitems others t [] (List.append_nil t).symm hspells⟩
  | succ depth =>
    obtain ⟨others, u, behind, rfl, hspells, -, hleaves⟩ := h
    exact ⟨items ++ others, taken ++ u, behind, (List.append_assoc ..).symm,
      hitems others u _ rfl hspells, Or.inr (List.append_ne_nil_of_left_ne_nil hne others), hleaves⟩

/-- A group and what stands behind it, once its bracket is read. -/
theorem Leaves.group (h : Leaves (depth + 1) started' t) (hnew : ¬ started') :
    Leaves depth started ('[' :: t) := by
  obtain ⟨inner, u, behind, rfl, hinner, hsome, hleaves⟩ := h
  have hne : inner ≠ [] := hsome.resolve_left hnew
  have hfront : Leaves depth started ('[' :: u ++ [']'] ++ behind) := by
    refine hleaves.append (List.cons_ne_nil (.group inner) []) ?_
    intro others v _ _ hspells
    simpa using Spells.group hne hinner hspells
  simpa using hfront

theorem Leaves.closing (h : Leaves depth started' t) (hstarted : started) :
    Leaves (depth + 1) started (']' :: t) := by
  refine ⟨[], [], t, rfl, .nil, Or.inl hstarted, ?_⟩
  cases depth with
  | zero => exact h
  | succ depth =>
    obtain ⟨items, u, behind, rfl, hspells, -, hleaves⟩ := h
    exact ⟨items, u, behind, rfl, hspells, Or.inl trivial, hleaves⟩

end Item

/-- How reading a text inside the given open groups fails, where something stands before the text in
the innermost of them or not: within the text, at a group that is not closed in it, or at the
innermost group, which is closed at once. -/
inductive Fails (stack : List OpenGroup) (started : Prop) (offset : Nat) (t : Text) (fault : Fault) :
    Prop where
  | within {u behind : Text} (ht : t = u ++ behind) (hoffset : fault.offset = offset + u.length)
      (hcomplete : Item.CanComplete stack.length started u) (hcause : fault.IsCausedBy u behind)
      (hopen : fault.complaint = .unclosedGroup → Item.CanComplete stack.length started t)
  | unclosed {depth : Nat} {g : OpenGroup} (hg : stack[depth]? = some g)
      (hleaves : Item.Leaves depth started t) (hfault : fault = ⟨g.offset, .unclosedGroup⟩)
  | empty {g : OpenGroup} {others : List OpenGroup} {behind : Text} (hstack : stack = g :: others)
      (hstarted : ¬ started) (ht : t = ']' :: behind) (hfault : fault = ⟨g.offset, .emptyGroup⟩)

namespace Fails

variable {stack : List OpenGroup} {started started' : Prop} {offset : Nat} {t : Text} {fault : Fault}

theorem append {token : Token} {segment : Segment} {taken : Text}
    (h : Fails stack started' (offset + taken.length) t fault) (hstarted : started')
    (htakes : token.Takes offset taken t) (hsegment : token.segment? = some segment) :
    Fails stack started offset (taken ++ t) fault := by
  cases h with
  | @within u behind ht hoffset hcomplete hcause hopen =>
    subst ht
    refine .within (List.append_assoc ..).symm ?_ (hcomplete.append htakes hsegment)
      (hcause.append taken) fun hfault => ?_
    · rw [hoffset, List.length_append, Nat.add_assoc]
    · rw [← List.append_nil (u ++ behind)] at htakes
      exact (hopen hfault).append htakes hsegment
  | unclosed hg hleaves hfault =>
    obtain ⟨items, hne, hitems⟩ := Item.exists_items htakes hsegment
    refine .unclosed hg (hleaves.append hne ?_) hfault
    intro others u behind heq hspells
    exact hitems others u (fun hbehind => (heq ▸ hbehind).of_append) hspells
  | empty _ hnew _ _ => exact absurd hstarted hnew

/-- A group that is closed at once or never is at fault itself. -/
theorem group {before : Segments}
    (h : Fails (⟨offset, before⟩ :: stack) started' (offset + 1) t fault) (hnew : ¬ started') :
    Fails stack started offset ('[' :: t) fault := by
  cases h with
  | @within u behind ht hoffset hcomplete hcause hopen =>
    subst ht
    refine .within (u := '[' :: u) rfl ?_ (hcomplete.group hnew) (hcause.append ['['])
      fun hfault => (hopen hfault).group hnew
    rw [hoffset, List.length_cons]
    omega
  | @unclosed depth g hg hleaves hfault =>
    cases depth with
    | zero =>
      obtain rfl := Option.some.inj hg
      subst hfault
      obtain ⟨items, hspells⟩ := hleaves
      have hcomplete : Item.CanComplete (stack.length + 1) False t := hspells.canComplete _ _
      exact .within (u := []) rfl rfl (Item.Spells.nil.canComplete _ _)
        (fun outer hbegins => .unclosedGroup hspells (by simpa using hbegins rfl))
        fun _ => hcomplete.group id
    | succ depth => exact .unclosed hg (hleaves.group hnew) hfault
  | empty hstack _ ht hfault =>
    obtain ⟨rfl, -⟩ := List.cons.inj hstack
    subst hfault ht
    exact .within (u := []) rfl rfl (Item.Spells.nil.canComplete _ _) (fun _ _ => .emptyGroup)
      (by simp)

theorem closing {innermost : OpenGroup} (h : Fails stack started' (offset + 1) t fault)
    (hstarted' : started') (hstarted : started) :
    Fails (innermost :: stack) started offset (']' :: t) fault := by
  cases h with
  | @within u behind ht hoffset hcomplete hcause hopen =>
    subst ht
    refine .within (u := ']' :: u) rfl ?_ (hcomplete.closing hstarted) (hcause.append [']'])
      fun hfault => (hopen hfault).closing hstarted
    rw [hoffset, List.length_cons]
    omega
  | unclosed hg hleaves hfault => exact .unclosed hg (hleaves.closing hstarted) hfault
  | empty _ hnew _ _ => exact absurd hstarted' hnew

end Fails

/-- A text that cannot be read to its end fails in one of these ways. -/
theorem fails_of_nest {stack : List OpenGroup} {before : Segments} {offset : Nat} {t : Text}
    {fault : Fault} (h : nest stack before (scanFrom offset 0 t) = .error fault) :
    Fails stack (before ≠ []) offset t fault := by
  induction hlength : t.length using Nat.strongRecOn generalizing stack before offset t with
  | ind n ih =>
    cases t with
    | nil =>
      cases stack with
      | nil => cases h
      | cons innermost stack =>
        exact @Fails.unclosed _ _ _ _ _ 0 innermost rfl ⟨[], .nil⟩ (Except.error.inj h).symm
    | cons c t =>
      rcases takes_or_faulty offset c t with ⟨fault', tokens, hfaulty⟩ |
        ⟨token, taken, behind, htakes, heq⟩
      · have hfault : fault' = fault := by
          rw [hfaulty] at h
          cases stack <;> exact Except.error.inj h
        subst hfault
        obtain ⟨u, behind, heq, hoffset, hbegins, hclosed, hcause⟩ := scanFrom_eq_faulty hfaulty
        refine .within heq hoffset ?_ hcause fun hopen => absurd hopen hclosed
        rcases hbegins with rfl | ⟨body, rfl, hbody⟩
        · exact Item.Spells.nil.canComplete _ _
        · exact Item.canComplete_choice hbody _ _
      · rw [heq] at h hlength ⊢
        rw [htakes.scanFrom_eq] at h
        have hlt : behind.length < n := by
          have hpos := List.length_pos_iff.2 htakes.ne_nil
          rw [List.length_append] at hlength
          omega
        cases hsegment : token.segment? with
        | some segment =>
          rw [nest_segment hsegment] at h
          exact (ih _ hlt h rfl).append (List.append_ne_nil_of_right_ne_nil _ (List.cons_ne_nil _ _))
            htakes hsegment
        | none =>
          cases htakes with
          | literal | capture | choice => cases hsegment
          | opening =>
            have hopen : nest (⟨offset, before⟩ :: stack) [] (scanFrom (offset + 1) 0 behind) =
                .error fault := by
              cases stack <;> exact h
            exact (ih _ hlt hopen rfl).group fun hnil => hnil rfl
          | closing =>
            cases stack with
            | nil =>
              obtain rfl := Except.error.inj h
              exact .within (u := []) rfl rfl (Item.Spells.nil.canComplete _ _)
                (fun _ _ => .unexpected (by decide)) (by simp)
            | cons innermost stack =>
              rw [nest] at h
              split at h
              · rename_i hempty
                refine .empty rfl ?_ rfl (Except.error.inj h).symm
                simpa using hempty
              · rename_i hstarted
                exact (ih _ hlt h rfl).closing
                  (List.append_ne_nil_of_right_ne_nil _ (List.cons_ne_nil _ _))
                  (by simpa using hstarted)
          | query =>
            rw [nest] at h
            split at h
            · rename_i hlast
              obtain ⟨hstack, hbehind⟩ := Bool.and_eq_true_iff.1 hlast
              obtain rfl := List.isEmpty_iff.1 hstack
              obtain rfl := List.isEmpty_iff.1 hbehind
              cases h
            · obtain rfl := Except.error.inj h
              exact .within (u := []) rfl rfl (Item.Spells.nil.canComplete _ _)
                (fun _ _ => .unexpected (by decide)) (by simp)

theorem Item.CanComplete.isBeginning {started : Prop} {t : Text}
    (h : CanComplete 0 started t) : IsBeginning t := by
  obtain ⟨rest, -, items, u, end', heq, hspells, hcloses, -⟩ := h
  refine ⟨rest, items, u, hspells, ?_⟩
  rw [heq]
  rcases hcloses with rfl | rfl
  · exact Or.inl (List.append_nil u)
  · exact Or.inr rfl

/-- A template that cannot be read has the cause of its fault at the offset of the fault, and what
stands in front of it is the beginning of a template that can be read. -/
theorem exists_cause_of_outline {template : Text} {fault : Fault}
    (h : outline template = .error fault) :
    ∃ before behind, template = before ++ behind ∧ fault.offset = before.length ∧
      IsBeginning before ∧
      Cause fault.complaint.code (Error.value ⟨behind, ⟨0, fault.complaint⟩⟩) before behind := by
  cases fails_of_nest h with
  | @within before behind ht hoffset hcomplete hcause hopen =>
    refine ⟨before, behind, ht, by simpa using hoffset, hcomplete.isBeginning, ?_⟩
    exact hcause [] fun hfault => ht ▸ (hopen hfault).isBeginning
  | unclosed hg _ _ => simp at hg
  | empty hstack _ _ _ => cases hstack

end DsnBinding.Template
