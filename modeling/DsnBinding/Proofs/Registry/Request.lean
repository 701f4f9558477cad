import DsnBinding.Proofs.OrderedMap
import DsnBinding.Proofs.Outcome
import DsnBinding.Proofs.Pattern.Compiled
import DsnBinding.Proofs.Schema
import DsnBinding.Registry

/-!
Requests to a registry, and what a single one does. A request for a pattern leaves in its place what
it answers, and a request for a schema does the same for the schema; beside that it looks up one
pattern, in the common place, unless the schema is kept or fails before its template is compiled.
Whatever is kept stays until it is forgotten, and whatever comes to it is newer than everything
there was.
-/
namespace DsnBinding

namespace Placed

variable {α : Type}

theorem get_set (p : Placed α) (place place' : Place) (a : α) :
    (p.set place a).get place' = if place = place' then a else p.get place' := by
  cases place <;> cases place' <;> rfl

/-- An entry that is put into the store of one place. -/
theorem get?_set_insert {κ β : Type} [DecidableEq κ] (p : Placed (OrderedMap κ β))
    (place place' : Place) (k k' : κ) (v : β) :
    ((p.set place ((p.get place).insert k v)).get place').get? k' =
      if place = place' ∧ k = k' then some v else (p.get place').get? k' := by
  rw [get_set]
  by_cases hplace : place = place'
  · subst hplace
    simp [OrderedMap.get?_insert]
  · simp [hplace]

theorem get?_of_set_empty {κ β : Type} [DecidableEq κ] {p : Placed (OrderedMap κ β)}
    {place place' : Place} {k : κ} {v : β}
    (h : ((p.set place .empty).get place').get? k = some v) : (p.get place').get? k = some v := by
  rw [get_set] at h
  split at h
  · cases h
  · exact h

theorem nodup_set_empty {κ β : Type} {p : Placed (OrderedMap κ β)}
    (h : ∀ place, (p.get place).keys.Nodup) (place place' : Place) :
    ((p.set place .empty).get place').keys.Nodup := by
  rw [get_set]
  split
  · exact List.nodup_nil
  · exact h place'

theorem nodup_set_insert {κ β : Type} [DecidableEq κ] {p : Placed (OrderedMap κ β)}
    (h : ∀ place, (p.get place).keys.Nodup) (place place' : Place) (k : κ) (v : β) :
    ((p.set place ((p.get place).insert k v)).get place').keys.Nodup := by
  rw [get_set]
  split
  · exact OrderedMap.nodup_insert (h place) k v
  · exact h place'

end Placed

/-- What can be asked of a registry. A type is asked for by its key. -/
inductive Request where
  | pattern (place : Place) (template : Text)
  | schema (place : Place) (key : Nat)
  | forgetPatterns (place : Place)
  | forgetSchemas (place : Place)
  deriving Repr, DecidableEq, Inhabited

inductive Answer where
  | pattern (result : Except Template.Error (Shared Pattern))
  | schema (result : Except RequestFailure (Shared LinkedSchema))
  | forgotten
  deriving Inhabited

/-- What a request for the schema of a type comes to if nothing is kept. -/
def RecordType.requested (type : RecordType) : Except RequestFailure Schema :=
  match type.notAKey? with
  | some error => .error (.notAKey error)
  | none => (Schema.ofRecordType type).mapError .schema

/-- The template that is compiled for the schema of a type, unless the schema fails before. -/
def RecordType.template? (type : RecordType) : Option Text :=
  match Blueprint.ofRecordType type with
  | .ok blueprint => some blueprint.template
  | .error _ => none

namespace Registry

/-- Answer a request, where the types are given by their keys. -/
def answer (types : Nat → RecordType) (r : Registry) : Request → Answer × Registry
  | .pattern place template =>
    let (result, r) := r.pattern place template
    (.pattern result, r)
  | .schema place key =>
    let (result, r) := r.requestSchema place key (types key)
    (.schema result, r)
  | .forgetPatterns place => (.forgotten, r.forgetPatterns place)
  | .forgetSchemas place => (.forgotten, r.forgetSchemas place)

def after (types : Nat → RecordType) (r : Registry) (requests : List Request) : Registry :=
  requests.foldl (fun r request => (r.answer types request).2) r

/-- The pattern that is looked up to answer a request. A schema that is kept needs none. -/
def sought (types : Nat → RecordType) (r : Registry) : Request → Option (Place × Text)
  | .pattern place template => some (place, template)
  | .schema place key =>
    if (r.schemas.get place).contains key then none
    else (types key).template?.map fun template => (.common, template)
  | .forgetPatterns _ | .forgetSchemas _ => none

/-- A store that lost nothing, and what came to it is not older than the given identity. -/
structure Grows {κ α : Type} [DecidableEq κ] (first : Nat) (m m' : OrderedMap κ (Shared α)) :
    Prop where
  kept : ∀ k shared, m.get? k = some shared → m'.get? k = some shared
  added : ∀ k shared, m'.get? k = some shared → m.get? k = some shared ∨ first ≤ shared.identity

theorem Grows.refl {κ α : Type} [DecidableEq κ] (first : Nat) (m : OrderedMap κ (Shared α)) :
    Grows first m m :=
  ⟨fun _ _ h => h, fun _ _ h => Or.inl h⟩

theorem Grows.trans {κ α : Type} [DecidableEq κ] {first first' : Nat}
    {m m' m'' : OrderedMap κ (Shared α)} (h : Grows first m m') (h' : Grows first' m' m'')
    (hle : first ≤ first') : Grows first m m'' := by
  refine ⟨fun k shared hk => h'.kept k shared (h.kept k shared hk), ?_⟩
  intro k shared hk
  rcases h'.added k shared hk with hk | hnew
  · exact h.added k shared hk
  · exact Or.inr (Nat.le_trans hle hnew)

section Patterns

variable (r : Registry) (place : Place) (template : Text)

/-- A pattern is kept, or its template does not compile, or a new pattern is left in the place. -/
theorem pattern_cases :
    (∃ shared, (r.patterns.get place).get? template = some shared ∧
        r.pattern place template = (.ok shared, r)) ∨
      (∃ error, (r.patterns.get place).get? template = none ∧
        Pattern.compile template = .error error ∧ r.pattern place template = (.error error, r)) ∨
      ∃ p, (r.patterns.get place).get? template = none ∧ Pattern.compile template = .ok p ∧
        r.pattern place template =
          (.ok ⟨r.next, p⟩,
            ⟨r.patterns.set place ((r.patterns.get place).insert template ⟨r.next, p⟩), r.schemas,
              r.next + 1⟩) := by
  cases hkept : (r.patterns.get place).get? template with
  | some shared => exact Or.inl ⟨shared, rfl, by simp only [pattern, hkept]⟩
  | none =>
    cases hcompiled : Pattern.compile template with
    | error error =>
      exact Or.inr (Or.inl ⟨error, rfl, rfl, by simp only [pattern, hkept, hcompiled]⟩)
    | ok p =>
      have htemplate : p.template = template := (Pattern.compile_eq_ok hcompiled).1
      refine Or.inr (Or.inr ⟨p, rfl, rfl, ?_⟩)
      simp only [pattern, hkept, hcompiled, keepPattern, htemplate]

theorem pattern_eq_error {error : Template.Error}
    (h : (r.pattern place template).1 = .error error) :
    (r.pattern place template).2 = r := by
  rcases r.pattern_cases place template with ⟨_, -, heq⟩ | ⟨_, -, -, heq⟩ | ⟨_, -, -, heq⟩
  · rw [heq]
  · rw [heq]
  · rw [heq] at h
    cases h

theorem schemas_pattern : (r.pattern place template).2.schemas = r.schemas := by
  rcases r.pattern_cases place template with ⟨_, -, heq⟩ | ⟨_, -, -, heq⟩ | ⟨_, -, -, heq⟩ <;>
    rw [heq]

theorem next_pattern : r.next ≤ (r.pattern place template).2.next := by
  rcases r.pattern_cases place template with ⟨_, -, heq⟩ | ⟨_, -, -, heq⟩ | ⟨_, -, -, heq⟩ <;>
    rw [heq]
  exact Nat.le_succ r.next

/-- The place keeps what it answers, and nothing else changes. -/
theorem get?_pattern (place' : Place) (template' : Text) :
    ((r.pattern place template).2.patterns.get place').get? template' =
      if (place, template) = (place', template') then (r.pattern place' template').1.toOption
      else (r.patterns.get place').get? template' := by
  split
  · rename_i hsame
    obtain ⟨rfl, rfl⟩ := Prod.mk.inj hsame
    rcases r.pattern_cases place template with ⟨_, hkept, heq⟩ | ⟨_, hkept, -, heq⟩ | ⟨_, -, -, heq⟩
    · rw [heq]
      exact hkept
    · rw [heq]
      exact hkept
    · rw [heq]
      simp [Placed.get_set, OrderedMap.get?_insert, Except.toOption]
  · rename_i hother
    rcases r.pattern_cases place template with ⟨_, -, heq⟩ | ⟨_, -, -, heq⟩ | ⟨_, -, -, heq⟩ <;>
      rw [heq]
    dsimp only
    rw [Placed.get?_set_insert, if_neg fun hboth => hother (Prod.ext hboth.1 hboth.2)]

end Patterns

section Schemas

variable (r : Registry)

/-- A schema is built from the pattern that the common place answers, unless it fails before. -/
theorem buildSchema_cases (type : RecordType) :
    (∃ failure, Blueprint.ofRecordType type = .error failure ∧
        r.buildSchema type = (.error failure, r)) ∨
      (∃ blueprint error, Blueprint.ofRecordType type = .ok blueprint ∧
        (r.pattern .common blueprint.template).1 = .error error ∧
        r.buildSchema type =
          (.error (.refused (.template error)), (r.pattern .common blueprint.template).2)) ∨
      ∃ blueprint shared, Blueprint.ofRecordType type = .ok blueprint ∧
        (r.pattern .common blueprint.template).1 = .ok shared ∧
        r.buildSchema type =
          (((Schema.assemble blueprint shared.content).mapError .refused).map (⟨·, shared⟩),
            (r.pattern .common blueprint.template).2) := by
  cases hblueprint : Blueprint.ofRecordType type with
  | error failure => exact Or.inl ⟨failure, rfl, by simp only [buildSchema, hblueprint]⟩
  | ok blueprint =>
    rcases hpattern : r.pattern .common blueprint.template with ⟨error | shared, r'⟩
    · exact Or.inr (Or.inl ⟨blueprint, error, rfl, by rw [hpattern],
        by simp only [buildSchema, hblueprint, hpattern]⟩)
    · exact Or.inr (Or.inr ⟨blueprint, shared, rfl, by rw [hpattern],
        by simp only [buildSchema, hblueprint, hpattern]⟩)

theorem registry_buildSchema (type : RecordType) :
    (r.buildSchema type).2 =
      match type.template? with
      | some template => (r.pattern .common template).2
      | none => r := by
  unfold RecordType.template?
  rcases r.buildSchema_cases type with ⟨_, hblueprint, heq⟩ | ⟨_, _, hblueprint, -, heq⟩ |
    ⟨_, _, hblueprint, -, heq⟩ <;> simp only [heq, hblueprint]

theorem schemas_buildSchema (type : RecordType) : (r.buildSchema type).2.schemas = r.schemas := by
  rw [registry_buildSchema]
  cases type.template? with
  | some template => exact r.schemas_pattern .common template
  | none => rfl

theorem next_buildSchema (type : RecordType) : r.next ≤ (r.buildSchema type).2.next := by
  rw [registry_buildSchema]
  cases type.template? with
  | some template => exact r.next_pattern .common template
  | none => exact Nat.le_refl r.next

variable (place : Place) (key : Nat) (type : RecordType)

/-- A type cannot be looked up, or its schema is kept, or it cannot be built, or a new schema is
left in the place. -/
theorem requestSchema_cases :
    (∃ error, type.notAKey? = some error ∧
        r.requestSchema place key type = (.error (.notAKey error), r)) ∨
      (∃ shared, type.notAKey? = none ∧ (r.schemas.get place).get? key = some shared ∧
        r.requestSchema place key type = (.ok shared, r)) ∨
      (∃ failure, type.notAKey? = none ∧ (r.schemas.get place).get? key = none ∧
        (r.buildSchema type).1 = .error failure ∧
        r.requestSchema place key type = (.error (.schema failure), (r.buildSchema type).2)) ∨
      ∃ linked, type.notAKey? = none ∧ (r.schemas.get place).get? key = none ∧
        (r.buildSchema type).1 = .ok linked ∧
        r.requestSchema place key type =
          (.ok ⟨(r.buildSchema type).2.next, linked⟩,
            ⟨(r.buildSchema type).2.patterns,
              r.schemas.set place ((r.schemas.get place).insert key
                ⟨(r.buildSchema type).2.next, linked⟩),
              (r.buildSchema type).2.next + 1⟩) := by
  cases hkey : type.notAKey? with
  | some error => exact Or.inl ⟨error, rfl, by simp only [requestSchema, hkey]⟩
  | none =>
    refine Or.inr ?_
    cases hkept : (r.schemas.get place).get? key with
    | some shared =>
      exact Or.inl ⟨shared, rfl, rfl, by simp only [requestSchema, hkey, schema, hkept]; rfl⟩
    | none =>
      have hschemas := r.schemas_buildSchema type
      rcases hbuild : r.buildSchema type with ⟨failure | linked, r'⟩
      · refine Or.inr (Or.inl ⟨failure, rfl, rfl, rfl, ?_⟩)
        simp only [requestSchema, hkey, schema, hkept, hbuild]
        rfl
      · rw [hbuild] at hschemas
        dsimp only at hschemas
        refine Or.inr (Or.inr ⟨linked, rfl, rfl, rfl, ?_⟩)
        simp only [requestSchema, hkey, schema, hkept, hbuild, keepSchema, hschemas]
        rfl

theorem template?_of_notAKey {error : NotAKey} (h : type.notAKey? = some error) :
    type.template? = none := by
  cases type with
  | value v => rfl
  | declared _ | plain _ _ | valueType _ => cases h

/-- A request for a schema that is not kept looks up the pattern of the template, in the common
place. -/
theorem patterns_requestSchema :
    (r.requestSchema place key type).2.patterns =
      if (r.schemas.get place).contains key then r.patterns
      else
        match type.template? with
        | some template => (r.pattern .common template).2.patterns
        | none => r.patterns := by
  have hbuild : (r.buildSchema type).2.patterns =
      match type.template? with
      | some template => (r.pattern .common template).2.patterns
      | none => r.patterns := by
    rw [registry_buildSchema]
    cases type.template? <;> rfl
  unfold OrderedMap.contains
  rcases r.requestSchema_cases place key type with ⟨_, hkey, heq⟩ | ⟨_, -, hkept, heq⟩ |
    ⟨_, -, hkept, -, heq⟩ | ⟨_, -, hkept, -, heq⟩
  · rw [heq, template?_of_notAKey type hkey]
    exact (ite_self _).symm
  · simp [heq, hkept]
  · simp only [heq, hkept, hbuild]
    rfl
  · simp only [heq, hkept, hbuild]
    rfl

theorem next_requestSchema : r.next ≤ (r.requestSchema place key type).2.next := by
  have hbuild := r.next_buildSchema type
  rcases r.requestSchema_cases place key type with ⟨_, -, heq⟩ | ⟨_, -, -, heq⟩ |
    ⟨_, -, -, -, heq⟩ | ⟨_, -, -, -, heq⟩ <;> rw [heq]
  · exact hbuild
  · exact Nat.le_succ_of_le hbuild

end Schemas

section Answers

variable {types : Nat → RecordType} {request : Request} {place : Place}

theorem next_answer (r : Registry) (request : Request) :
    r.next ≤ (r.answer types request).2.next := by
  cases request with
  | pattern place template => exact r.next_pattern place template
  | schema place key => exact r.next_requestSchema place key (types key)
  | forgetPatterns _ | forgetSchemas _ => exact Nat.le_refl r.next

/-- Unless its patterns are forgotten, a place keeps what it answers to the pattern that is looked
up, and nothing else changes in it. -/
theorem get?_patterns_answer (r : Registry) (h : request ≠ .forgetPatterns place)
    (template : Text) :
    ((r.answer types request).2.patterns.get place).get? template =
      if r.sought types request = some (place, template) then (r.pattern place template).1.toOption
      else (r.patterns.get place).get? template := by
  cases request with
  | pattern place' template' =>
    simp only [sought, Option.some.injEq]
    exact r.get?_pattern place' template' place template
  | schema place' key =>
    simp only [sought, answer, patterns_requestSchema]
    split
    · rfl
    · cases (types key).template? with
      | none => rfl
      | some template' =>
        simp only [Option.map_some, Option.some.injEq]
        exact r.get?_pattern .common template' place template
  | forgetPatterns place' =>
    have hne : place' ≠ place := fun e => h (e ▸ rfl)
    simp [sought, answer, forgetPatterns, Placed.get_set, hne]
  | forgetSchemas place' => rfl

theorem patterns_forget (r : Registry) (place : Place) :
    (r.answer types (.forgetPatterns place)).2.patterns.get place = .empty := by
  simp [answer, forgetPatterns, Placed.get_set]

theorem schemas_forget (r : Registry) (place : Place) :
    (r.answer types (.forgetSchemas place)).2.schemas.get place = .empty := by
  simp [answer, forgetSchemas, Placed.get_set]

/-- Unless they are forgotten, the patterns of a place stay, and new ones are newer. -/
theorem grows_patterns (r : Registry) (h : request ≠ .forgetPatterns place) :
    Grows r.next (r.patterns.get place) ((r.answer types request).2.patterns.get place) := by
  constructor
  · intro template shared hshared
    rw [get?_patterns_answer r h]
    split
    · rcases r.pattern_cases place template with ⟨_, hkept, heq⟩ | ⟨_, hkept, -, -⟩ |
        ⟨_, hkept, -, -⟩
      · rw [heq, ← hshared, hkept]
        rfl
      · rw [hshared] at hkept
        cases hkept
      · rw [hshared] at hkept
        cases hkept
    · exact hshared
  · intro template shared hshared
    rw [get?_patterns_answer r h] at hshared
    split at hshared
    · rcases r.pattern_cases place template with ⟨_, hkept, heq⟩ | ⟨_, -, -, heq⟩ |
        ⟨_, -, -, heq⟩ <;> rw [heq] at hshared
      · exact Or.inl (hkept.trans hshared)
      · cases hshared
      · obtain rfl := Option.some.inj hshared
        exact Or.inr (Nat.le_refl r.next)
    · exact Or.inl hshared

theorem grows_schemas (r : Registry) (h : request ≠ .forgetSchemas place) :
    Grows r.next (r.schemas.get place) ((r.answer types request).2.schemas.get place) := by
  cases request with
  | pattern place' template =>
    simp only [answer, schemas_pattern]
    exact Grows.refl _ _
  | forgetPatterns place' => exact Grows.refl _ _
  | forgetSchemas place' =>
    have hne : place' ≠ place := fun e => h (e ▸ rfl)
    simp only [answer, forgetSchemas, Placed.get_set, if_neg hne]
    exact Grows.refl _ _
  | schema place' key =>
    have hnext := r.next_buildSchema (types key)
    simp only [answer]
    rcases r.requestSchema_cases place' key (types key) with ⟨_, -, heq⟩ | ⟨_, -, -, heq⟩ |
      ⟨_, -, -, -, heq⟩ | ⟨linked, -, hkept, -, heq⟩ <;> rw [heq]
    · exact Grows.refl _ _
    · exact Grows.refl _ _
    · rw [schemas_buildSchema]
      exact Grows.refl _ _
    · constructor
      · intro key' shared hshared
        have hne : ¬ (place' = place ∧ key = key') := by
          intro hboth
          obtain ⟨rfl, rfl⟩ := hboth
          rw [hshared] at hkept
          cases hkept
        rw [Placed.get?_set_insert, if_neg hne]
        exact hshared
      · intro key' shared hshared
        rw [Placed.get?_set_insert] at hshared
        split at hshared
        · obtain rfl := Option.some.inj hshared
          exact Or.inr hnext
        · exact Or.inl hshared

end Answers

end Registry

end DsnBinding
