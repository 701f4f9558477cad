import DsnBinding.Proofs.Registry.Soundness
import Mathlib.Data.List.Induction

/-!
Whole runs of a registry. What is kept is what would be built anew, and it is the same object until
it is forgotten; what is built after that is another one. So the places hold exactly what was asked
of them with success since they were last emptied, and a schema keeps the pattern that it was built
from.
-/
namespace DsnBinding.Registry

variable {types : Nat → RecordType}

theorem after_append (r : Registry) (requests requests' : List Request) :
    r.after types (requests ++ requests') = (r.after types requests).after types requests' :=
  List.foldl_append

/-- A store that one request empties, and that only grows with every other one. -/
structure EmptiedBy {κ α : Type} [DecidableEq κ] (types : Nat → RecordType)
    (store : Registry → OrderedMap κ (Shared α)) (forget : Request) : Prop where
  grows : ∀ r request, request ≠ forget →
    Grows r.next (store r) (store (answer types r request).2)
  empties : ∀ r, store (answer types r forget).2 = .empty

theorem emptiedBy_patterns (types : Nat → RecordType) (place : Place) :
    EmptiedBy types (fun r => r.patterns.get place) (.forgetPatterns place) :=
  ⟨fun r _ h => r.grows_patterns h, fun r => r.patterns_forget place⟩

theorem emptiedBy_schemas (types : Nat → RecordType) (place : Place) :
    EmptiedBy types (fun r => r.schemas.get place) (.forgetSchemas place) :=
  ⟨fun r _ h => r.grows_schemas h, fun r => r.schemas_forget place⟩

namespace EmptiedBy

variable {κ α : Type} [DecidableEq κ] {store : Registry → OrderedMap κ (Shared α)}
  {forget : Request}

/-- What is kept stays as long as nothing is forgotten. -/
theorem grows_after (hstore : EmptiedBy types store forget) (r : Registry) {requests : List Request}
    (h : forget ∉ requests) : Grows r.next (store r) (store (r.after types requests)) := by
  induction requests generalizing r with
  | nil => exact Grows.refl _ _
  | cons request rest ih =>
    obtain ⟨hfirst, hrest⟩ := not_or.1 (mt List.mem_cons.2 h)
    exact (hstore.grows r request (Ne.symm hfirst)).trans (ih _ hrest) (r.next_answer request)

theorem next_le (hstore : EmptiedBy types store forget) (r : Registry) {requests : List Request}
    (h : forget ∈ requests) {k : κ} {shared : Shared α}
    (hshared : (store (r.after types requests)).get? k = some shared) :
    r.next ≤ shared.identity := by
  induction requests generalizing r with
  | nil => cases h
  | cons request rest ih =>
    have hnext : r.next ≤ (r.answer types request).2.next := r.next_answer request
    by_cases hrest : forget ∈ rest
    · exact Nat.le_trans hnext (ih _ hrest hshared)
    · obtain rfl := (List.mem_cons.1 h).resolve_right hrest
      rcases (hstore.grows_after (r.answer types forget).2 hrest).added k shared hshared with
        hkept | hnew
      · rw [hstore.empties] at hkept
        cases hkept
      · exact Nat.le_trans hnext hnew

/-- A key has the same object as before exactly if nothing was forgotten meanwhile. -/
theorem identity_eq_iff (hstore : EmptiedBy types store forget) (r : Registry)
    (requests : List Request) {k : κ} {shared shared' : Shared α}
    (hshared : (store r).get? k = some shared) (hlt : shared.identity < r.next)
    (hshared' : (store (r.after types requests)).get? k = some shared') :
    (shared'.identity = shared.identity ↔ forget ∉ requests) ∧
      (forget ∉ requests → shared' = shared) := by
  have hsame : forget ∉ requests → shared' = shared := by
    intro h
    have hkept := (hstore.grows_after r h).kept k shared hshared
    exact Option.some.inj (hshared'.symm.trans hkept)
  refine ⟨⟨?_, fun h => congrArg Shared.identity (hsame h)⟩, hsame⟩
  intro heq hmem
  have hnew := hstore.next_le r hmem hshared'
  omega

end EmptiedBy

/-- One of the requests since something was last forgotten is such that the property holds of it and
of what came before it. -/
def SinceForgotten (forget : Request) (past : List Request)
    (property : List Request → Request → Prop) : Prop :=
  ∃ before request between, past = before ++ request :: between ∧ forget ∉ between ∧
    property before request

theorem sinceForgotten_concat {forget request : Request} {past : List Request}
    {property : List Request → Request → Prop} :
    SinceForgotten forget (past ++ [request]) property ↔
      property past request ∨ request ≠ forget ∧ SinceForgotten forget past property := by
  constructor
  · intro hsome
    obtain ⟨before, request', between, heq, hnot, hproperty⟩ := hsome
    rcases List.eq_nil_or_concat between with rfl | ⟨between, last, rfl⟩
    · obtain ⟨rfl, hlast⟩ := List.append_inj' heq rfl
      obtain rfl := List.cons.inj hlast |>.1
      exact Or.inl hproperty
    · rw [List.concat_eq_append, ← List.cons_append, ← List.append_assoc] at heq
      obtain ⟨rfl, hlast⟩ := List.append_inj' heq rfl
      obtain rfl := List.cons.inj hlast |>.1
      rw [List.concat_eq_append, List.mem_append, not_or, List.mem_singleton] at hnot
      exact Or.inr ⟨Ne.symm hnot.2, before, request', between, rfl, hnot.1, hproperty⟩
  · intro hor
    rcases hor with hproperty | ⟨hne, before, request', between, rfl, hnot, hproperty⟩
    · exact ⟨past, request, [], rfl, List.not_mem_nil, hproperty⟩
    · refine ⟨before, request', between ++ [request], by simp, ?_, hproperty⟩
      simpa [hnot] using Ne.symm hne

/-- A store holds what was added to it since it was emptied. -/
theorem EmptiedBy.contains_iff {κ α : Type} [DecidableEq κ]
    {store : Registry → OrderedMap κ (Shared α)} {forget : Request}
    (hstore : EmptiedBy types store forget) (hempty : store empty = .empty) {k : κ}
    {adds : Registry → Request → Prop} (hforget : ∀ r, ¬ adds r forget)
    (hstep : ∀ r, IsSound types r → ∀ request, request ≠ forget →
      ((store (r.answer types request).2).contains k = true ↔
        adds r request ∨ (store r).contains k = true)) (past : List Request) :
    (store (empty.after types past)).contains k = true ↔
      SinceForgotten forget past fun before request => adds (empty.after types before) request := by
  induction past using List.reverseRecOn with
  | nil =>
    have hnone : ¬ SinceForgotten forget []
        fun before request => adds (empty.after types before) request := by
      intro hsome
      obtain ⟨before, request, between, heq, -⟩ := hsome
      simp at heq
    have hstart : (store (empty.after types [])).contains k = false := by
      show (store empty).contains k = false
      rw [hempty]
      rfl
    simp [hnone, hstart]
  | append_singleton past request ih =>
    have hsound := (isSound_empty types).after past
    rw [sinceForgotten_concat, ← ih, after_append]
    show (store ((empty.after types past).answer types request).2).contains k = true ↔ _
    by_cases h : request = forget
    · subst h
      rw [hstore.empties]
      simp [OrderedMap.contains, hforget]
    · rw [hstep _ hsound request h]
      simp [h]

/-- The registry after some requests, empty at first. -/
def reached (types : Nat → RecordType) (past : List Request) : Registry := empty.after types past

theorem reached_append_cons (past : List Request) (request : Request) (later : List Request) :
    reached types (past ++ request :: later) =
      ((reached types past).answer types request).2.after types later :=
  after_append empty past (request :: later)

theorem isSound_reached (types : Nat → RecordType) (past : List Request) :
    IsSound types (reached types past) :=
  (isSound_empty types).after past

/-- Two requests for one key of a store are answered with the same object exactly if the store was
not emptied between them. -/
theorem EmptiedBy.answers_iff {κ α ε : Type} [DecidableEq κ]
    {store : Registry → OrderedMap κ (Shared α)} {forget request : Request} {k : κ}
    {answered : Registry → Except ε (Shared α)} (hstore : EmptiedBy types store forget)
    (hne : request ≠ forget)
    (hkeeps : ∀ r, IsSound types r → ∀ shared, answered r = .ok shared →
      (store (r.answer types request).2).get? k = some shared)
    (hold : ∀ r, IsSound types r → ∀ shared, (store r).get? k = some shared →
      shared.identity < r.next)
    (past between : List Request) {shared shared' : Shared α}
    (h : answered (reached types past) = .ok shared)
    (h' : answered (reached types (past ++ request :: between)) = .ok shared') :
    (shared'.identity = shared.identity ↔ forget ∉ between) ∧
      (forget ∉ between → shared' = shared) := by
  have hsound := isSound_reached types past
  have hkept := hkeeps _ hsound shared h
  have hkept' := hkeeps _ (isSound_reached types _) shared' h'
  -- The second request is answered at the end of a run that starts right after the first.
  have hrun : ((reached types (past ++ request :: between)).answer types request).2 =
      ((reached types past).answer types request).2.after types (between ++ [request]) := by
    rw [reached_append_cons, after_append]
    rfl
  have hmem : forget ∈ between ++ [request] ↔ forget ∈ between := by simp [Ne.symm hne]
  rw [hrun] at hkept'
  rw [← hmem]
  exact hstore.identity_eq_iff _ _ hkept (hold _ (hsound.step request) shared hkept) hkept'

theorem patterns_empty (place : Place) : empty.patterns.get place = .empty := by cases place <;> rfl

theorem schemas_empty (place : Place) : empty.schemas.get place = .empty := by cases place <;> rfl

/-- What holds of a registry after any requests. -/
structure IsConsistent (types : Nat → RecordType) (past : List Request) : Prop where
  pattern_fresh : ∀ place template,
    ((reached types past).pattern place template).1.map Shared.content = Pattern.compile template
  schema_fresh : ∀ place key,
    ((reached types past).requestSchema place key (types key)).1.map (·.content.schema) =
      (types key).requested
  schema_linked : ∀ place key shared,
    ((reached types past).requestSchema place key (types key)).1 = .ok shared →
      shared.content.pattern.content = shared.content.schema.pattern
  pattern_same : ∀ place template between shared shared',
    ((reached types past).pattern place template).1 = .ok shared →
    ((reached types (past ++ .pattern place template :: between)).pattern place template).1 =
      .ok shared' →
    (shared'.identity = shared.identity ↔ .forgetPatterns place ∉ between) ∧
      (.forgetPatterns place ∉ between → shared' = shared)
  schema_same : ∀ place key between shared shared',
    ((reached types past).requestSchema place key (types key)).1 = .ok shared →
    ((reached types (past ++ .schema place key :: between)).requestSchema place key
      (types key)).1 = .ok shared' →
    (shared'.identity = shared.identity ↔ .forgetSchemas place ∉ between) ∧
      (.forgetSchemas place ∉ between → shared' = shared)
  /-- A place keeps the patterns that were looked up in it, and compiled, since it was emptied. -/
  patterns_held : ∀ place template,
    ((reached types past).patterns.get place).contains template = true ↔
      SinceForgotten (.forgetPatterns place) past fun before request =>
        (reached types before).sought types request = some (place, template) ∧
          ∃ p, Pattern.compile template = .ok p
  /-- A place keeps the schemas that were asked of it, and built, since it was emptied. -/
  schemas_held : ∀ place key, ((reached types past).schemas.get place).contains key = true ↔
    SinceForgotten (.forgetSchemas place) past fun _ request =>
      request = .schema place key ∧ ∃ s, (types key).requested = .ok s
  nodup : ∀ place, ((reached types past).patterns.get place).keys.Nodup ∧
    ((reached types past).schemas.get place).keys.Nodup
  pattern_failed : ∀ place template error,
    ((reached types past).pattern place template).1 = .error error →
      ((reached types past).pattern place template).2 = reached types past
  /-- A request for a schema that fails leaves the pattern of its template, if that compiles, in the
  common place, and changes nothing else. -/
  schema_failed : ∀ place key failure,
    let r := reached types past
    let r' := (r.requestSchema place key (types key)).2
    (r.requestSchema place key (types key)).1 = .error failure →
      r'.schemas = r.schemas ∧
        ((∀ template p, (types key).template? = some template →
          Pattern.compile template ≠ .ok p) → r' = r) ∧
        ∀ template p, (types key).template? = some template → Pattern.compile template = .ok p →
          r'.patterns.common.contains template = true
  /-- A request for a schema adds at most one pattern, to the common place. -/
  schema_adds : ∀ place key,
    let r := reached types past
    let r' := (r.requestSchema place key (types key)).2
    r'.patterns.own = r.patterns.own ∧ Grows r.next r.patterns.common r'.patterns.common ∧
      ∀ template, r'.patterns.common.contains template = true →
        r.patterns.common.contains template = true ∨ (types key).template? = some template
  /-- A new schema has the pattern that the common place answers and holds from then on, and the
  schema that is kept is this one until the schemas of its place are forgotten, also if the patterns
  are. -/
  schema_pattern : ∀ place key shared,
    let r := reached types past
    ((r.schemas.get place).contains key = false) →
    (r.requestSchema place key (types key)).1 = .ok shared →
      (r.pattern .common shared.content.schema.template).1 = .ok shared.content.pattern ∧
        (r.requestSchema place key (types key)).2.patterns.common.get?
          shared.content.schema.template = some shared.content.pattern ∧
        ∀ later, .forgetSchemas place ∉ later →
          ((reached types (past ++ .schema place key :: later)).requestSchema place key
            (types key)).1 = .ok shared

theorem isConsistent (types : Nat → RecordType) (past : List Request) :
    IsConsistent types past := by
  have hsound := isSound_reached types past
  constructor
  case pattern_fresh => exact hsound.pattern_eq
  case schema_fresh => exact hsound.requestSchema_eq
  case schema_linked =>
    intro place key shared h
    exact (hsound.step (.schema place key)).linked place key shared (hsound.get?_schemas_of_ok h)
  case pattern_same =>
    intro place template between shared shared' h h'
    have hne : Request.pattern place template ≠ .forgetPatterns place := nofun
    exact (emptiedBy_patterns types place).answers_iff hne
      (fun r _ shared hshared => get?_patterns_of_ok hshared)
      (fun r hr shared hshared => (hr.pattern place template shared hshared).2) past between h h'
  case schema_same =>
    intro place key between shared shared' h h'
    have hne : Request.schema place key ≠ .forgetSchemas place := nofun
    exact (emptiedBy_schemas types place).answers_iff hne
      (fun r hr shared hshared => hr.get?_schemas_of_ok hshared)
      (fun r hr shared hshared => (hr.schema place key shared hshared).2) past between h h'
  case patterns_held =>
    intro place template
    exact (emptiedBy_patterns types place).contains_iff (patterns_empty place)
      (fun r hsought => nomatch hsought.1)
      (fun r hr request hne => hr.contains_patterns_answer hne template) past
  case schemas_held =>
    intro place key
    exact (emptiedBy_schemas types place).contains_iff (schemas_empty place)
      (fun r hrequest => nomatch hrequest.1)
      (fun r hr request hne => hr.contains_schemas_answer hne key) past
  case nodup => exact fun place => ⟨hsound.nodup_patterns place, hsound.nodup_schemas place⟩
  case pattern_failed =>
    exact fun place template error h => (reached types past).pattern_eq_error place template h
  case schema_failed =>
    intro place key failure r r' hfailed
    have hkept : (r.schemas.get place).contains key = false := by
      rw [OrderedMap.contains, hsound.not_kept_of_error place key hfailed]
      rfl
    exact ⟨schemas_of_error place key hfailed, hsound.requestSchema_eq_error place key hfailed,
      fun template p htemplate hcompiled =>
        hsound.contains_of_compiles place key hkept htemplate hcompiled⟩
  case schema_adds =>
    intro place key r r'
    have hpatterns := r.patterns_of_requestSchema place key (types key)
    have hne : Request.schema place key ≠ .forgetPatterns .common := by simp
    exact ⟨hpatterns.1, r.grows_patterns hne, hpatterns.2⟩
  case schema_pattern =>
    intro place key shared r hkept hanswer
    obtain ⟨hpattern, hheld⟩ := pattern_of_new place key hkept hanswer
    refine ⟨hpattern, hheld, fun later hlater => ?_⟩
    have hafter := (hsound.step (.schema place key)).after later
    rw [reached_append_cons]
    refine hafter.requestSchema_of_kept ?_
    exact ((emptiedBy_schemas types place).grows_after _ hlater).kept key shared
      (hsound.get?_schemas_of_ok hanswer)

/-- The pattern that was forgotten is built again, and the schema still has the old one. -/
theorem isConsistent_forgotten_pattern :
    let d : Declaration :=
      ⟨['D'], some (.text ['$', 'P']), false, [⟨['p'], .int 0, .named .integer, none⟩]⟩
    let types : Nat → RecordType := fun _ => .declared d
    let t : Text := ['$', 'P']
    let between : List Request := [.schema .own 0, .forgetPatterns .common]
    ∃ shared again schema,
      ((reached types []).pattern .common t).1 = .ok shared ∧
      ((reached types (.pattern .common t :: between)).pattern .common t).1 = .ok again ∧
      ((reached types (.pattern .common t :: between)).requestSchema .own 0 (types 0)).1 =
        .ok schema ∧
      again.identity ≠ shared.identity ∧ schema.content.pattern = shared := by
  intro d types t between
  have hfirst : ∃ shared, ((reached types []).pattern .common t).1 = .ok shared := ⟨_, rfl⟩
  have hagain : ∃ again,
      ((reached types (.pattern .common t :: between)).pattern .common t).1 = .ok again := ⟨_, rfl⟩
  have hschema : ∃ schema,
      ((reached types [.pattern .common t]).requestSchema .own 0 (types 0)).1 = .ok schema :=
    ⟨_, rfl⟩
  obtain ⟨shared, hshared⟩ := hfirst
  obtain ⟨again, hagain⟩ := hagain
  obtain ⟨schema, hschema⟩ := hschema
  obtain ⟨hnew, -⟩ :=
    (isConsistent types []).pattern_same .common t between shared again hshared hagain
  obtain ⟨hpattern, -, hkept⟩ :=
    (isConsistent types [.pattern .common t]).schema_pattern .own 0 schema rfl hschema
  have hforgotten : .forgetPatterns .common ∈ between := by decide
  refine ⟨shared, again, schema, hshared, hagain, hkept _ (by decide), ?_, ?_⟩
  · exact fun hsame => hnew.1 hsame hforgotten
  · have htemplate : schema.content.schema.template = t := by
      obtain rfl := Except.ok.inj hschema
      rfl
    have hheld : ((reached types [.pattern .common t]).pattern .common t).1 = .ok shared := by
      obtain rfl := Except.ok.inj hshared
      rfl
    rw [htemplate, hheld] at hpattern
    exact (Except.ok.inj hpattern).symm

end DsnBinding.Registry
