import DsnBinding.Proofs.Registry.Request

/-!
What holds of a registry whatever was asked of it. What it keeps is what would be built anew, so that
what it answers is that too, and what it keeps is older than whatever it will build next. A request
that fails leaves nothing behind, except for the pattern of a schema.
-/
namespace DsnBinding.Registry

/-- What a registry keeps is what would be built anew, and is older than what is built next. -/
structure IsSound (types : Nat → RecordType) (r : Registry) : Prop where
  pattern : ∀ place template shared, (r.patterns.get place).get? template = some shared →
    Pattern.compile template = .ok shared.content ∧ shared.identity < r.next
  schema : ∀ place key shared, (r.schemas.get place).get? key = some shared →
    (types key).requested = .ok shared.content.schema ∧ shared.identity < r.next
  linked : ∀ place key shared, (r.schemas.get place).get? key = some shared →
    shared.content.pattern.content = shared.content.schema.pattern
  nodup_patterns : ∀ place, (r.patterns.get place).keys.Nodup
  nodup_schemas : ∀ place, (r.schemas.get place).keys.Nodup

variable {types : Nat → RecordType} {r : Registry}

theorem isSound_empty (types : Nat → RecordType) : IsSound types empty where
  pattern place _ _ h := by cases place <;> cases h
  schema place _ _ h := by cases place <;> cases h
  linked place _ _ h := by cases place <;> cases h
  nodup_patterns place := by cases place <;> exact List.nodup_nil
  nodup_schemas place := by cases place <;> exact List.nodup_nil

theorem buildSchema_linked {linked : LinkedSchema} {type : RecordType}
    (h : (r.buildSchema type).1 = .ok linked) :
    type.template? = some linked.schema.template ∧
      (r.pattern .common linked.schema.template).1 = .ok linked.pattern ∧
      linked.pattern.content = linked.schema.pattern := by
  rcases r.buildSchema_cases type with ⟨_, -, heq⟩ | ⟨_, _, -, -, heq⟩ |
    ⟨blueprint, shared, hblueprint, hpattern, heq⟩ <;> rw [heq] at h
  · cases h
  · cases h
  · obtain ⟨s, hs, rfl⟩ := map_eq_ok.1 h
    obtain ⟨fields, -, -, rfl⟩ := Schema.assemble_eq_ok (mapError_eq_ok.1 hs)
    exact ⟨by simp only [RecordType.template?, hblueprint], hpattern, rfl⟩

namespace IsSound

theorem pattern_eq (h : IsSound types r) (place : Place) (template : Text) :
    (r.pattern place template).1.map Shared.content = Pattern.compile template := by
  rcases r.pattern_cases place template with ⟨_, hkept, heq⟩ | ⟨_, -, hcompiled, heq⟩ |
    ⟨_, -, hcompiled, heq⟩ <;> rw [heq]
  · exact (h.pattern place template _ hkept).1.symm
  · exact hcompiled.symm
  · exact hcompiled.symm

theorem pattern_step (h : IsSound types r) (place : Place) (template : Text) :
    IsSound types (r.pattern place template).2 := by
  rcases r.pattern_cases place template with ⟨_, -, heq⟩ | ⟨_, -, -, heq⟩ | ⟨p, -, hcompiled, heq⟩
  · rwa [heq]
  · rwa [heq]
  · rw [heq]
    refine ⟨?_, ?_, h.linked, fun place' =>
      Placed.nodup_set_insert h.nodup_patterns place place' template _, h.nodup_schemas⟩
    · intro place' template' shared hshared
      rw [Placed.get?_set_insert] at hshared
      split at hshared
      · rename_i hboth
        obtain ⟨rfl, rfl⟩ := hboth
        obtain rfl := Option.some.inj hshared
        exact ⟨hcompiled, Nat.lt_succ_self r.next⟩
      · obtain ⟨hfresh, hlt⟩ := h.pattern place' template' shared hshared
        exact ⟨hfresh, Nat.lt_succ_of_lt hlt⟩
    · intro place' key shared hshared
      obtain ⟨hfresh, hlt⟩ := h.schema place' key shared hshared
      exact ⟨hfresh, Nat.lt_succ_of_lt hlt⟩

theorem buildSchema_step (h : IsSound types r) (type : RecordType) :
    IsSound types (r.buildSchema type).2 := by
  rw [registry_buildSchema]
  cases type.template? with
  | some template => exact h.pattern_step .common template
  | none => exact h

/-- What is built is what would be built without a registry. -/
theorem buildSchema_eq (h : IsSound types r) (type : RecordType) :
    (r.buildSchema type).1.map LinkedSchema.schema = Schema.ofRecordType type := by
  unfold Schema.ofRecordType
  rcases r.buildSchema_cases type with ⟨_, hblueprint, heq⟩ |
    ⟨blueprint, error, hblueprint, hpattern, heq⟩ |
    ⟨blueprint, shared, hblueprint, hpattern, heq⟩ <;> rw [heq, hblueprint]
  · rfl
  · have hcompiled : Pattern.compile blueprint.template = .error error := by
      rw [← h.pattern_eq .common, hpattern]
      rfl
    simp only [hcompiled]
    rfl
  · have hcompiled : Pattern.compile blueprint.template = .ok shared.content := by
      rw [← h.pattern_eq .common, hpattern]
      rfl
    simp only [hcompiled]
    cases Schema.assemble blueprint shared.content <;> rfl

theorem requestSchema_eq (h : IsSound types r) (place : Place) (key : Nat) :
    (r.requestSchema place key (types key)).1.map (·.content.schema) = (types key).requested := by
  have hbuild := h.buildSchema_eq (types key)
  unfold RecordType.requested
  rcases r.requestSchema_cases place key (types key) with ⟨_, hkey, heq⟩ | ⟨_, hkey, hkept, heq⟩ |
    ⟨_, hkey, -, hfailure, heq⟩ | ⟨_, hkey, -, hlinked, heq⟩ <;> rw [heq, hkey]
  · rfl
  · have hfresh := (h.schema place key _ hkept).1
    rw [RecordType.requested, hkey] at hfresh
    exact hfresh.symm
  · rw [hfailure] at hbuild
    rw [← hbuild]
    rfl
  · rw [hlinked] at hbuild
    rw [← hbuild]
    rfl

theorem requestSchema_step (h : IsSound types r) (place : Place) (key : Nat) :
    IsSound types (r.requestSchema place key (types key)).2 := by
  have hbuild := h.buildSchema_step (types key)
  have hanswer := h.requestSchema_eq place key
  rcases r.requestSchema_cases place key (types key) with ⟨_, -, heq⟩ | ⟨_, -, -, heq⟩ |
    ⟨_, -, -, -, heq⟩ | ⟨linked, -, -, hlinked, heq⟩
  · rwa [heq]
  · rwa [heq]
  · rwa [heq]
  · have hcontent := (buildSchema_linked hlinked).2.2
    have hschemas := r.schemas_buildSchema (types key)
    rw [heq] at hanswer ⊢
    generalize (r.buildSchema (types key)).2 = built at hbuild hanswer hschemas ⊢
    rw [← hschemas]
    refine ⟨?_, ?_, ?_, hbuild.nodup_patterns, fun place' =>
      Placed.nodup_set_insert hbuild.nodup_schemas place place' key _⟩
    · intro place' template shared hshared
      obtain ⟨hfresh, hlt⟩ := hbuild.pattern place' template shared hshared
      exact ⟨hfresh, Nat.lt_succ_of_lt hlt⟩
    · intro place' key' shared hshared
      rw [Placed.get?_set_insert] at hshared
      split at hshared
      · rename_i hboth
        obtain ⟨rfl, rfl⟩ := hboth
        obtain rfl := Option.some.inj hshared
        exact ⟨hanswer.symm, Nat.lt_succ_self built.next⟩
      · obtain ⟨hfresh, hlt⟩ := hbuild.schema place' key' shared hshared
        exact ⟨hfresh, Nat.lt_succ_of_lt hlt⟩
    · intro place' key' shared hshared
      rw [Placed.get?_set_insert] at hshared
      split at hshared
      · obtain rfl := Option.some.inj hshared
        exact hcontent
      · exact hbuild.linked place' key' shared hshared

theorem step (h : IsSound types r) (request : Request) :
    IsSound types (r.answer types request).2 := by
  cases request with
  | pattern place template => exact h.pattern_step place template
  | schema place key => exact h.requestSchema_step place key
  | forgetPatterns place =>
    exact ⟨fun place' _ _ hshared => h.pattern place' _ _ (Placed.get?_of_set_empty hshared),
      h.schema, h.linked, Placed.nodup_set_empty h.nodup_patterns place, h.nodup_schemas⟩
  | forgetSchemas place =>
    exact ⟨h.pattern,
      fun place' _ _ hshared => h.schema place' _ _ (Placed.get?_of_set_empty hshared),
      fun place' _ _ hshared => h.linked place' _ _ (Placed.get?_of_set_empty hshared),
      h.nodup_patterns, Placed.nodup_set_empty h.nodup_schemas place⟩

theorem after (h : IsSound types r) (requests : List Request) :
    IsSound types (r.after types requests) := by
  induction requests generalizing r with
  | nil => exact h
  | cons request rest ih => exact ih (h.step request)

/-- Unless its schemas are forgotten, a place keeps what it answers, and nothing else changes in it.
-/
theorem get?_schemas_answer (h : IsSound types r) {request : Request} {place : Place}
    (hne : request ≠ .forgetSchemas place) (key : Nat) :
    ((r.answer types request).2.schemas.get place).get? key =
      if request = .schema place key then (r.requestSchema place key (types key)).1.toOption
      else (r.schemas.get place).get? key := by
  cases request with
  | pattern place' template => simp [answer, schemas_pattern]
  | forgetPatterns place' => rfl
  | forgetSchemas place' =>
    have hne : place' ≠ place := fun e => hne (e ▸ rfl)
    simp [answer, forgetSchemas, Placed.get_set, hne]
  | schema place' key' =>
    simp only [answer, Request.schema.injEq]
    by_cases hboth : place' = place ∧ key' = key
    · obtain ⟨rfl, rfl⟩ := hboth
      rw [if_pos ⟨rfl, rfl⟩]
      rcases r.requestSchema_cases place' key' (types key') with ⟨error, hkey, heq⟩ |
        ⟨_, -, hkept, heq⟩ | ⟨_, -, hkept, -, heq⟩ | ⟨_, -, -, -, heq⟩ <;> rw [heq]
      · cases hkept : (r.schemas.get place').get? key' with
        | none => rfl
        | some shared =>
          have hfresh := (h.schema place' key' shared hkept).1
          rw [RecordType.requested, hkey] at hfresh
          cases hfresh
      · exact hkept
      · rw [schemas_buildSchema]
        exact hkept
      · rw [Placed.get?_set_insert, if_pos ⟨rfl, rfl⟩]
        rfl
    · rw [if_neg hboth]
      rcases r.requestSchema_cases place' key' (types key') with ⟨_, -, heq⟩ | ⟨_, -, -, heq⟩ |
        ⟨_, -, -, -, heq⟩ | ⟨_, -, -, -, heq⟩ <;> rw [heq]
      · rw [schemas_buildSchema]
      · rw [Placed.get?_set_insert, if_neg hboth]

/-- A pattern is looked up with success exactly if its template compiles. -/
theorem contains_patterns_answer (h : IsSound types r) {request : Request} {place : Place}
    (hne : request ≠ .forgetPatterns place) (template : Text) :
    ((r.answer types request).2.patterns.get place).contains template = true ↔
      (r.sought types request = some (place, template) ∧ ∃ p, Pattern.compile template = .ok p) ∨
        (r.patterns.get place).contains template = true := by
  have hanswer : (r.pattern place template).1.toOption.isSome = true ↔
      ∃ p, Pattern.compile template = .ok p := by
    rw [← h.pattern_eq place template]
    cases (r.pattern place template).1 <;> simp [Except.toOption, Except.map]
  have hkept : (r.patterns.get place).contains template = true →
      ∃ p, Pattern.compile template = .ok p := by
    intro hsome
    obtain ⟨shared, hshared⟩ := Option.isSome_iff_exists.1 hsome
    exact ⟨_, (h.pattern place template shared hshared).1⟩
  rw [OrderedMap.contains, get?_patterns_answer r hne]
  split
  · rename_i hsought
    rw [hanswer]
    exact ⟨fun hcompiles => Or.inl ⟨hsought, hcompiles⟩, fun hor => hor.elim And.right hkept⟩
  · rename_i hsought
    simp [hsought, OrderedMap.contains]

theorem contains_schemas_answer (h : IsSound types r) {request : Request} {place : Place}
    (hne : request ≠ .forgetSchemas place) (key : Nat) :
    ((r.answer types request).2.schemas.get place).contains key = true ↔
      (request = .schema place key ∧ ∃ s, (types key).requested = .ok s) ∨
        (r.schemas.get place).contains key = true := by
  have hanswer : (r.requestSchema place key (types key)).1.toOption.isSome = true ↔
      ∃ s, (types key).requested = .ok s := by
    rw [← h.requestSchema_eq place key]
    cases (r.requestSchema place key (types key)).1 <;> simp [Except.toOption, Except.map]
  have hkept : (r.schemas.get place).contains key = true → ∃ s, (types key).requested = .ok s := by
    intro hsome
    obtain ⟨shared, hshared⟩ := Option.isSome_iff_exists.1 hsome
    exact ⟨_, (h.schema place key shared hshared).1⟩
  rw [OrderedMap.contains, h.get?_schemas_answer hne]
  split
  · rename_i hrequest
    rw [hanswer]
    exact ⟨fun hbuilt => Or.inl ⟨hrequest, hbuilt⟩, fun hor => hor.elim And.right hkept⟩
  · rename_i hrequest
    simp [hrequest, OrderedMap.contains]

theorem get?_schemas_of_ok (h : IsSound types r) {place : Place} {key : Nat}
    {shared : Shared LinkedSchema}
    (hanswer : (r.requestSchema place key (types key)).1 = .ok shared) :
    ((r.requestSchema place key (types key)).2.schemas.get place).get? key = some shared := by
  have hne : Request.schema place key ≠ .forgetSchemas place := nofun
  have hget := h.get?_schemas_answer hne key
  rw [if_pos rfl, hanswer] at hget
  exact hget

theorem requestSchema_of_kept (h : IsSound types r) {place : Place} {key : Nat}
    {shared : Shared LinkedSchema} (hkept : (r.schemas.get place).get? key = some shared) :
    (r.requestSchema place key (types key)).1 = .ok shared := by
  have hfresh := (h.schema place key shared hkept).1
  rcases r.requestSchema_cases place key (types key) with ⟨_, hkey, -⟩ | ⟨_, -, hkept', heq⟩ |
    ⟨_, -, hnone, -, -⟩ | ⟨_, -, hnone, -, -⟩
  · rw [RecordType.requested, hkey] at hfresh
    cases hfresh
  · rw [heq]
    exact congrArg Except.ok (Option.some.inj (hkept'.symm.trans hkept))
  · rw [hkept] at hnone
    cases hnone
  · rw [hkept] at hnone
    cases hnone

end IsSound

theorem get?_patterns_of_ok {place : Place} {template : Text} {shared : Shared Pattern}
    (h : (r.pattern place template).1 = .ok shared) :
    ((r.pattern place template).2.patterns.get place).get? template = some shared := by
  rw [get?_pattern, if_pos rfl, h]
  rfl

section SchemaRequests

variable (place : Place) (key : Nat)

theorem schemas_of_error {failure : RequestFailure}
    (hfailed : (r.requestSchema place key (types key)).1 = .error failure) :
    (r.requestSchema place key (types key)).2.schemas = r.schemas := by
  have hbuild := r.schemas_buildSchema (types key)
  rcases r.requestSchema_cases place key (types key) with ⟨_, -, heq⟩ | ⟨_, -, -, heq⟩ |
    ⟨_, -, -, -, heq⟩ | ⟨_, -, -, -, heq⟩
  · rw [heq]
  · rw [heq]
  · rw [heq, hbuild]
  · rw [heq] at hfailed
    cases hfailed

/-- A schema that is not kept is built from the pattern that the common place then holds. -/
theorem pattern_of_new {shared : Shared LinkedSchema}
    (hkept : (r.schemas.get place).contains key = false)
    (hanswer : (r.requestSchema place key (types key)).1 = .ok shared) :
    (r.pattern .common shared.content.schema.template).1 = .ok shared.content.pattern ∧
      (r.requestSchema place key (types key)).2.patterns.common.get?
        shared.content.schema.template = some shared.content.pattern := by
  have hlinked : (r.buildSchema (types key)).1 = .ok shared.content := by
    rcases r.requestSchema_cases place key (types key) with ⟨_, -, heq⟩ | ⟨_, -, hsome, -⟩ |
      ⟨_, -, -, -, heq⟩ | ⟨_, -, -, hlinked, heq⟩
    · rw [heq] at hanswer
      cases hanswer
    · rw [OrderedMap.contains, hsome] at hkept
      cases hkept
    · rw [heq] at hanswer
      cases hanswer
    · rw [heq] at hanswer
      obtain rfl := Except.ok.inj hanswer
      exact hlinked
  obtain ⟨htemplate, hpattern, -⟩ := buildSchema_linked hlinked
  refine ⟨hpattern, ?_⟩
  rw [patterns_requestSchema, hkept, htemplate]
  exact get?_patterns_of_ok hpattern

variable (h : IsSound types r)
include h

/-- A request for a schema whose template compiles leaves its pattern in the common place. -/
theorem IsSound.contains_of_compiles {template : Text} {p : Pattern}
    (hkept : (r.schemas.get place).contains key = false)
    (htemplate : (types key).template? = some template)
    (hcompiled : Pattern.compile template = .ok p) :
    (r.requestSchema place key (types key)).2.patterns.common.contains template = true := by
  have hne : Request.schema place key ≠ .forgetPatterns .common := nofun
  refine (h.contains_patterns_answer hne template).2 (Or.inl ⟨?_, p, hcompiled⟩)
  simp [sought, hkept, htemplate]

theorem IsSound.requestSchema_eq_error {failure : RequestFailure}
    (hfailed : (r.requestSchema place key (types key)).1 = .error failure)
    (hnone : ∀ template p, (types key).template? = some template →
      Pattern.compile template ≠ .ok p) :
    (r.requestSchema place key (types key)).2 = r := by
  have hbuild : (r.buildSchema (types key)).2 = r := by
    rw [registry_buildSchema]
    cases htemplate : (types key).template? with
    | none => rfl
    | some template =>
      cases hcompiled : Pattern.compile template with
      | ok p => exact absurd hcompiled (hnone template p htemplate)
      | error error =>
        have hanswer := h.pattern_eq .common template
        rw [hcompiled] at hanswer
        exact r.pattern_eq_error .common template (map_eq_error.1 hanswer)
  rcases r.requestSchema_cases place key (types key) with ⟨_, -, heq⟩ | ⟨_, -, -, heq⟩ |
    ⟨_, -, -, -, heq⟩ | ⟨_, -, -, -, heq⟩
  · rw [heq]
  · rw [heq]
  · rw [heq, hbuild]
  · rw [heq] at hfailed
    cases hfailed

theorem IsSound.not_kept_of_error {failure : RequestFailure}
    (hfailed : (r.requestSchema place key (types key)).1 = .error failure) :
    (r.schemas.get place).get? key = none := by
  cases hkept : (r.schemas.get place).get? key with
  | none => rfl
  | some shared =>
    rw [h.requestSchema_of_kept hkept] at hfailed
    cases hfailed

end SchemaRequests

theorem patterns_of_requestSchema (r : Registry) (place : Place) (key : Nat) (type : RecordType) :
    (r.requestSchema place key type).2.patterns.own = r.patterns.own ∧
      ∀ template, (r.requestSchema place key type).2.patterns.common.contains template = true →
        r.patterns.common.contains template = true ∨ type.template? = some template := by
  rw [patterns_requestSchema]
  split
  · exact ⟨rfl, fun template => Or.inl⟩
  · cases htemplate : type.template? with
    | none => exact ⟨rfl, fun template => Or.inl⟩
    | some found =>
      constructor
      · rcases r.pattern_cases .common found with ⟨_, -, heq⟩ | ⟨_, -, -, heq⟩ | ⟨_, -, -, heq⟩ <;>
          simp only [heq]
        rfl
      · intro template hheld
        by_cases hsame : found = template
        · exact Or.inr (congrArg some hsame)
        · have hget := r.get?_pattern .common found .common template
          rw [if_neg fun heq => hsame (Prod.mk.inj heq).2] at hget
          exact Or.inl ((congrArg Option.isSome hget).symm.trans hheld)

end DsnBinding.Registry
