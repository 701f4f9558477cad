import DsnBinding.Proofs.Template.Item

/-!
The grammar of templates. A template is a sequence of items with a query separator behind them or
not, and exactly the texts of this form can be read. What is read from the items are the segments
that mirror them, with the captures where the template has their markers.
-/
namespace DsnBinding.Template

theorem nest_segment {token : Token} {segment : Segment} (h : token.segment? = some segment)
    (stack : List OpenGroup) (segments : Segments) (tokens : List Token) :
    nest stack segments (token :: tokens) = nest stack (segments ++ [segment]) tokens := by
  cases token with
  | literal _ | capture _ _ | choice _ =>
    obtain rfl := Option.some.inj h
    cases stack <;> rfl
  | opening _ | closing _ | query _ _ | faulty _ => cases h

/-- Reading a text at an offset comes to the given segments, whatever is read around it. -/
def ReadsAs (offset : Nat) (t : Text) (segments : Segments) : Prop :=
  ∀ (stack : List OpenGroup) (before : Segments) (behind : Text), EndsBefore isPlain behind →
    nest stack before (scanFrom offset 0 (t ++ behind)) =
      nest stack (before ++ segments) (scanFrom (offset + t.length) 0 behind)

section Reading

variable {offset : Nat} {t u taken : Text} {segments inner : Segments}

theorem readsAs_nil (offset : Nat) : ReadsAs offset [] [] := by
  intro stack before behind _
  rw [List.nil_append, List.append_nil]
  rfl

theorem ReadsAs.cons {token : Token} {segment : Segment}
    (htakes : ∀ behind, EndsBefore isPlain behind → token.Takes offset taken (t ++ behind))
    (hsegment : token.segment? = some segment) (h : ReadsAs (offset + taken.length) t segments) :
    ReadsAs offset (taken ++ t) (segment :: segments) := by
  intro stack before behind hbehind
  rw [List.append_assoc, (htakes behind hbehind).scanFrom_eq, nest_segment hsegment,
    h stack _ behind hbehind, List.append_assoc, List.singleton_append, List.length_append,
    Nat.add_assoc]

theorem ReadsAs.group (hne : inner ≠ []) (hinner : ReadsAs (offset + 1) u inner)
    (h : ReadsAs (offset + 1 + u.length + 1) t segments) :
    ReadsAs offset ('[' :: u ++ ']' :: t) (.group inner :: segments) := by
  intro stack before behind hbehind
  have hclose : EndsBefore isPlain (']' :: (t ++ behind)) := endsBefore_cons rfl _
  have hempty : inner.isEmpty = false := by simpa using hne
  have hlength : offset + ('[' :: u ++ ']' :: t).length = offset + 1 + u.length + 1 + t.length := by
    simp only [List.cons_append, List.length_cons, List.length_append]
    omega
  calc nest stack before (scanFrom offset 0 ('[' :: u ++ ']' :: t ++ behind))
      = nest (⟨offset, before⟩ :: stack) []
          (scanFrom (offset + 1) 0 (u ++ ']' :: (t ++ behind))) := by
        rw [List.append_assoc]
        cases stack <;> rfl
    _ = nest (⟨offset, before⟩ :: stack) inner
          (scanFrom (offset + 1 + u.length) 0 (']' :: (t ++ behind))) := by
        rw [hinner _ _ _ hclose, List.nil_append]
    _ = nest stack (before ++ [.group inner])
          (scanFrom (offset + 1 + u.length + 1) 0 (t ++ behind)) := by
        show nest _ inner (.closing _ :: scanFrom _ 0 _) = _
        rw [nest, if_neg (by simp [hempty])]
    _ = nest stack (before ++ .group inner :: segments)
          (scanFrom (offset + ('[' :: u ++ ']' :: t).length) 0 behind) := by
        rw [h _ _ _ hbehind, List.append_assoc, hlength]
        rfl

/-- A text is read as the given segments, which mirror others and have the offsets of the markers.
-/
structure IsReading (offset : Nat) (t : Text) (segments mirror : Segments) : Prop where
  readsAs : ReadsAs offset t segments
  mirrors : segments.withoutOffsets = mirror
  offsets : segments.offsets = t.idxsOf '$' offset

variable {mirror innerMirror : Segments}

theorem isReading_nil (offset : Nat) : IsReading offset [] [] [] :=
  ⟨readsAs_nil offset, rfl, rfl⟩

theorem idxsOf_of_isSpecial (hbody : ∀ c ∈ t, isSpecial c = false) (offset : Nat) :
    t.idxsOf '$' offset = [] := by
  rw [List.idxsOf_eq_nil_iff]
  intro c hc
  have hne : c ≠ '$' := fun e => absurd (hbody c hc) (by rw [e]; decide)
  simpa using hne

theorem IsReading.literal {run : Text} (hne : run ≠ []) (hplain : ∀ c ∈ run, isPlain c = true)
    (hend : EndsBefore isPlain t) (h : IsReading (offset + run.length) t segments mirror) :
    IsReading offset (run ++ t) (.literal run :: segments) (.literal run :: mirror) where
  readsAs := h.readsAs.cons (fun _ hbehind => .literal hne hplain (hend.append hbehind)) rfl
  mirrors := congrArg _ h.mirrors
  offsets := by
    rw [Segments.offsets_cons, List.idxsOf_append, ← h.offsets,
      idxsOf_of_isSpecial fun c hc => isSpecial_of_isPlain (hplain c hc)]
    rfl

theorem IsReading.capture {name : Text} (hname : isIdentifier name = true)
    (hend : EndsBefore isNameChar t)
    (h : IsReading (offset + ('$' :: name).length) t segments mirror) :
    IsReading offset ('$' :: name ++ t) (.capture name [] offset :: segments)
      (.capture name [] 0 :: mirror) where
  readsAs := h.readsAs.cons (fun _ hbehind => .capture hname (hend.append hbehind.of_isPlain)) rfl
  mirrors := congrArg _ h.mirrors
  offsets := by
    have hnone : name.idxsOf '$' (offset + 1) = [] := idxsOf_of_isSpecial (fun c hc =>
      isSpecial_of_isPlain (isPlain_of_isNameChar (isNameChar_of_isIdentifier hname c hc))) _
    rw [Segments.offsets_cons, List.idxsOf_append, ← h.offsets, List.idxsOf_cons, hnone]
    rfl

theorem IsReading.choice {body : Text} (hne : body ≠ []) (hbody : ∀ c ∈ body, isSpecial c = false)
    (h : IsReading (offset + ('(' :: body ++ [')']).length) t segments mirror) :
    IsReading offset ('(' :: body ++ [')'] ++ t) (.choice (optionsOf body) :: segments)
      (.choice (Item.options body) :: mirror) where
  readsAs := h.readsAs.cons (fun _ _ => .choice _ hne hbody) rfl
  mirrors := by rw [Segments.withoutOffsets, h.mirrors, optionsOf_eq]; rfl
  offsets := by
    have hnone : body.idxsOf '$' (offset + 1) = [] := idxsOf_of_isSpecial hbody _
    rw [Segments.offsets_cons, List.idxsOf_append, ← h.offsets, List.cons_append, List.idxsOf_cons,
      List.idxsOf_append, hnone]
    rfl

theorem IsReading.group (hne : inner ≠ []) (hinner : IsReading (offset + 1) u inner innerMirror)
    (h : IsReading (offset + 1 + u.length + 1) t segments mirror) :
    IsReading offset ('[' :: u ++ ']' :: t) (.group inner :: segments)
      (.group innerMirror :: mirror) where
  readsAs := hinner.readsAs.group hne h.readsAs
  mirrors := by rw [Segments.withoutOffsets, h.mirrors, Segment.withoutOffsets, hinner.mirrors]
  offsets := by
    rw [Segments.offsets_cons, List.cons_append, List.idxsOf_cons, List.idxsOf_append,
      List.idxsOf_cons, ← h.offsets, ← hinner.offsets]
    rfl

/-- A run of plain characters in front of what is read otherwise is a literal of its own. -/
theorem IsReading.behind_run {run : Text} (hplain : ∀ c ∈ run, isPlain c = true)
    (hend : EndsBefore isPlain t)
    (hhead : ∀ segment ∈ mirror.head?, segment.isLiteral = false)
    (h : IsReading (offset + run.length) t segments mirror) :
    ∃ segments', IsReading offset (run ++ t) segments' (run.foldr Segments.withChar mirror) := by
  by_cases hne : run = []
  · subst hne
    exact ⟨segments, h⟩
  · rw [Segments.foldr_withChar hne hhead]
    exact ⟨_, h.literal hne hplain hend⟩

end Reading

namespace Item

/-- What items are written as is read, also if a run of plain characters stands in front of it. -/
theorem Spells.exists_isReading {items : List Item} {t : Text} (h : Spells items t) (offset : Nat)
    {run : Text} (hrun : ∀ c ∈ run, isPlain c = true) :
    ∃ segments, IsReading offset (run ++ t) segments
      (run.foldr Segments.withChar (mirrored items)) := by
  have hnone : ∀ c ∈ ([] : Text), isPlain c = true := nofun
  induction h generalizing offset run with
  | nil => exact (isReading_nil _).behind_run hrun (endsBefore_nil isPlain) nofun
  | @plain c items t hc _ ih =>
    have hmore : ∀ d ∈ run ++ [c], isPlain d = true := by
      intro d hd
      rcases List.mem_append.1 hd with hd | hd
      · exact hrun d hd
      · exact List.mem_singleton.1 hd ▸ hc
    obtain ⟨segments, hreading⟩ := ih offset hmore
    rw [List.append_assoc, List.singleton_append, List.foldr_append] at hreading
    exact ⟨segments, hreading⟩
  | @capture name items t hname hend _ ih =>
    obtain ⟨segments, hreading⟩ := ih (offset + run.length + ('$' :: name).length) hnone
    exact (IsReading.capture hname hend hreading).behind_run hrun (endsBefore_cons rfl _)
      (Segments.isLiteral_head?_cons rfl _)
  | @choice body items t hne hbody _ ih =>
    obtain ⟨segments, hreading⟩ := ih (offset + run.length + ('(' :: body ++ [')']).length) hnone
    exact (IsReading.choice hne hbody hreading).behind_run hrun (endsBefore_cons rfl _)
      (Segments.isLiteral_head?_cons rfl _)
  | @group inner items u t hne hspells _ ihinner ih =>
    obtain ⟨segments, hreading⟩ := ih (offset + run.length + 1 + u.length + 1) hnone
    obtain ⟨innerSegments, hinner⟩ := ihinner (offset + run.length + 1) hnone
    have hne' : innerSegments ≠ [] := by
      rintro rfl
      exact mirrored_ne_nil hne hinner.mirrors.symm
    exact (IsReading.group hne' hinner hreading).behind_run hrun (endsBefore_cons rfl _)
      (Segments.isLiteral_head?_cons rfl _)

/-- What stands behind a sequence of items inside so many open groups: at the end of the template a
query separator or nothing. -/
def Closes : Nat → Text → Prop
  | 0, t => t = [] ∨ t = ['?']
  | depth + 1, t => ∃ items u behind, t = ']' :: u ++ behind ∧ Spells items u ∧ Closes depth behind

/-- The rest of a template inside so many open groups: items, of which there is one unless there
were some before, and what stands behind them. -/
def Completes (depth : Nat) (started : Prop) (t : Text) : Prop :=
  ∃ items u behind, t = u ++ behind ∧ Spells items u ∧ Closes depth behind ∧
    (0 < depth → started ∨ items ≠ [])

theorem Spells.plains {run : Text} {items : List Item} {t : Text}
    (hrun : ∀ c ∈ run, isPlain c = true) (h : Spells items t) :
    Spells (run.map .plain ++ items) (run ++ t) := by
  induction run with
  | nil => exact h
  | cons c run ih =>
    exact .plain (hrun c List.mem_cons_self) (ih fun d hd => hrun d (List.mem_cons_of_mem c hd))

theorem Completes.append {depth : Nat} {started started' : Prop} {taken t : Text}
    (h : Completes depth started' t) (items : List Item) (hne : items ≠ [])
    (hitems : ∀ others u behind, t = u ++ behind → Spells others u →
      Spells (items ++ others) (taken ++ u)) : Completes depth started (taken ++ t) := by
  obtain ⟨others, u, behind, rfl, hspells, hcloses, -⟩ := h
  refine ⟨items ++ others, taken ++ u, behind, (List.append_assoc ..).symm,
    hitems others u behind rfl hspells, hcloses, fun _ => Or.inr ?_⟩
  exact List.append_ne_nil_of_left_ne_nil hne others

/-- A group and what stands behind it, once its bracket is read. -/
theorem Completes.group {depth : Nat} {started started' : Prop} {t : Text}
    (h : Completes (depth + 1) started' t) (hnew : ¬ started') :
    Completes depth started ('[' :: t) := by
  obtain ⟨inner, u, rest, rfl, hinner, hcloses, hsome⟩ := h
  obtain ⟨items, v, rest, rfl, hspells, hcloses⟩ := hcloses
  have hne : inner ≠ [] := (hsome (Nat.succ_pos depth)).resolve_left hnew
  exact ⟨.group inner :: items, '[' :: u ++ ']' :: v, rest, by simp, .group hne hinner hspells,
    hcloses, fun _ => Or.inr (List.cons_ne_nil _ _)⟩

theorem Completes.closing {depth : Nat} {started started' : Prop} {t : Text}
    (h : Completes depth started' t) (hstarted : started) :
    Completes (depth + 1) started (']' :: t) := by
  obtain ⟨items, u, rest, rfl, hspells, hcloses, -⟩ := h
  exact ⟨[], [], ']' :: u ++ rest, rfl, .nil, ⟨items, u, rest, rfl, hspells, hcloses⟩,
    fun _ => Or.inl hstarted⟩

/-- A text that is read to its end completes a template. -/
theorem completes_of_nest {stack : List OpenGroup} {before result : Segments} {offset : Nat}
    {t : Text} (h : nest stack before (scanFrom offset 0 t) = .ok result) :
    Completes stack.length (before ≠ []) t := by
  induction hlength : t.length using Nat.strongRecOn generalizing stack before offset t with
  | ind n ih =>
    cases t with
    | nil =>
      cases stack with
      | nil => exact ⟨[], [], [], rfl, .nil, Or.inl rfl, nofun⟩
      | cons innermost stack => cases h
    | cons c t =>
      rcases takes_or_faulty offset c t with ⟨fault, tokens, hfaulty⟩ |
        ⟨token, taken, behind, htakes, heq⟩
      · rw [hfaulty] at h
        cases stack <;> cases h
      · rw [heq] at h hlength ⊢
        rw [htakes.scanFrom_eq] at h
        have hlt : behind.length < n := by
          have hpos := List.length_pos_iff.2 htakes.ne_nil
          rw [List.length_append] at hlength
          omega
        cases htakes with
        | literal hne hplain hend =>
          rw [nest_segment rfl] at h
          refine (ih _ hlt h rfl).append (taken.map .plain) (by simpa using hne) ?_
          intro others u behind _ hspells
          exact hspells.plains hplain
        | @capture name _ hname hend =>
          rw [nest_segment rfl] at h
          refine (ih _ hlt h rfl).append [.capture name] (List.cons_ne_nil _ []) ?_
          rintro others u behind rfl hspells
          exact .capture hname hend.of_append hspells
        | @choice body _ hne hbody =>
          rw [nest_segment rfl] at h
          refine (ih _ hlt h rfl).append [.choice body] (List.cons_ne_nil _ []) ?_
          intro others u behind _ hspells
          exact .choice hne hbody hspells
        | opening =>
          have hopen : nest (⟨offset, before⟩ :: stack) [] (scanFrom (offset + 1) 0 behind) =
              .ok result := by
            cases stack <;> exact h
          exact (ih _ hlt hopen rfl).group fun hnil => hnil rfl
        | closing =>
          cases stack with
          | nil => cases h
          | cons innermost stack =>
            rw [nest] at h
            split at h
            · cases h
            · rename_i hstarted
              exact (ih _ hlt h rfl).closing (by simpa using hstarted)
        | query =>
          rw [nest] at h
          split at h
          · rename_i hlast
            obtain ⟨hstack, hbehind⟩ := Bool.and_eq_true_iff.1 hlast
            obtain rfl := List.isEmpty_iff.1 hstack
            obtain rfl := List.isEmpty_iff.1 hbehind
            exact ⟨[], [], ['?'], rfl, .nil, Or.inr rfl, nofun⟩
          · cases h

theorem exists_spells_of_outline {template : Text} {segments : Segments}
    (h : outline template = .ok segments) :
    ∃ items t, Spells items t ∧ (template = t ∨ template = t ++ ['?']) := by
  obtain ⟨items, t, behind, rfl, hspells, hcloses, -⟩ := completes_of_nest h
  refine ⟨items, t, hspells, ?_⟩
  rcases hcloses with rfl | rfl
  · exact Or.inl (List.append_nil t)
  · exact Or.inr rfl

/-- What items are written as is read as the segments that mirror them, and in the same way with a
query separator behind it. -/
theorem Spells.exists_outline {items : List Item} {t template : Text} (h : Spells items t)
    (htemplate : template = t ∨ template = t ++ ['?']) :
    ∃ segments, outline template = .ok segments ∧ outline t = .ok segments ∧
      segments.withoutOffsets = mirrored items ∧ segments.offsets = template.idxsOf '$' := by
  obtain ⟨segments, hreads, hmirrors, hoffsets⟩ := @exists_isReading items t h 0 [] nofun
  have hend : outline (t ++ []) = .ok segments := hreads [] [] [] (endsBefore_nil isPlain)
  have hquery : outline (t ++ ['?']) = .ok segments := hreads [] [] ['?'] (endsBefore_cons rfl [])
  rw [List.append_nil] at hend
  rcases htemplate with rfl | rfl
  · exact ⟨segments, hend, hend, hmirrors, hoffsets⟩
  · refine ⟨segments, hquery, hend, hmirrors, ?_⟩
    rw [hoffsets, List.nil_append, List.idxsOf_append]
    simp

end Item

/-- Exactly what items are written as is read, with a query separator behind it or without one, and
it is read as the segments that mirror the items. -/
theorem outline_grammar (template : Text) :
    ((∃ segments, outline template = .ok segments) ↔
      ∃ items t, Item.Spells items t ∧ (template = t ∨ template = t ++ ['?'])) ∧
    ∀ items t, Item.Spells items t → template = t ∨ template = t ++ ['?'] →
      ∃ segments, outline template = .ok segments ∧ outline t = .ok segments ∧
        segments.withoutOffsets = Item.mirrored items ∧
        segments.offsets = template.idxsOf '$' := by
  refine ⟨⟨?_, ?_⟩, fun items t hspells htemplate => hspells.exists_outline htemplate⟩
  · intro hsome
    obtain ⟨segments, houtline⟩ := hsome
    exact Item.exists_spells_of_outline houtline
  · intro hsome
    obtain ⟨items, t, hspells, htemplate⟩ := hsome
    obtain ⟨segments, houtline, -⟩ := hspells.exists_outline htemplate
    exact ⟨segments, houtline⟩

/-- A repeated option is kept once, a body without a bar may be left out, and the two captures stand
where their markers do. -/
theorem outline_grammar_nested_group :
    let items : List Item :=
      [.plain 'a', .plain '|', .group [.capture ['b'], .choice ['c', '|', 'd', '|', 'c']],
        .choice ['s', '?'], .capture ['_', '1'], .plain '-']
    let t : Text :=
      ['a', '|', '[', '$', 'b', '(', 'c', '|', 'd', '|', 'c', ')', ']', '(', 's', '?', ')', '$',
        '_', '1', '-']
    Item.Spells items t ∧ ∃ segments, outline (t ++ ['?']) = .ok segments ∧
      segments.withoutOffsets =
        [.literal ['a', '|'], .group [.capture ['b'] [] 0, .choice [['c'], ['d']]],
          .choice [['s', '?'], []], .capture ['_', '1'] [] 0, .literal ['-']] ∧
      segments.offsets = [3, 17] := by
  intro items t
  have hinner : Item.Spells [.capture ['b'], .choice ['c', '|', 'd', '|', 'c']]
      ['$', 'b', '(', 'c', '|', 'd', '|', 'c', ')'] :=
    .capture rfl (endsBefore_cons rfl _) (.choice (List.cons_ne_nil _ _) (by simp [isSpecial]) .nil)
  have hspells : Item.Spells items t :=
    .plain rfl (.plain rfl (.group (List.cons_ne_nil _ _) hinner
      (.choice (List.cons_ne_nil _ _) (by simp [isSpecial])
        (.capture rfl (endsBefore_cons rfl _) (.plain rfl .nil)))))
  obtain ⟨segments, houtline, -, hmirrors, hoffsets⟩ :=
    (outline_grammar (t ++ ['?'])).2 items t hspells (Or.inr rfl)
  exact ⟨hspells, segments, houtline, by rw [hmirrors]; rfl, by rw [hoffsets]; rfl⟩

end DsnBinding.Template
