import DsnBinding.Proofs.Binding
import DsnBinding.Proofs.Outcome

/-!
Binding into any record that can be written, whether it succeeds or not. What a field receives is told
by the first source that has something for it. Binding ends at the first field with a text that cannot
be converted; the record that it leaves holds what the fields in front of that one received, and
otherwise what it held before.
-/
namespace DsnBinding

/-- A name that an object holds a value under and takes another. The record is of a declared type that
is not frozen, or a plain object in which the name stands for nothing else. -/
def Record.IsWritable (r : Record) (name : Text) : Prop :=
  name ∈ r.attributes.keys ∧
    match r.kind with
    | .declared frozen _ => frozen = false
    | .plain => r.kind.reserved? r.typeName name = none
    | .value _ => False

namespace Field

/-- No other source goes before the variable of the field. -/
structure ReadsVariable (f : Field) (contents : Contents) : Prop where
  params : f.role ≠ some .params
  scheme : f.role = some .scheme → contents.scheme = []

/-- The sources of a field: all parameters, the scheme, the text of its variable and its default. Empty
texts count only as defaults. -/
inductive Selects (f : Field) (contents : Contents) : Selection → Prop
  | parameters (h : f.role = some .params) : Selects f contents .parameters
  | scheme (h : f.role = some .scheme) (hne : contents.scheme ≠ []) :
      Selects f contents (.text contents.scheme)
  | captured {t : Text} (h : f.ReadsVariable contents) (hne : t ≠ [])
      (ht : contents.captures.get? f.variableName = some t) : Selects f contents (.text t)
  | fallback {t : Text} (h : f.ReadsVariable contents)
      (hempty : ∀ t, contents.captures.get? f.variableName = some t → t = [])
      (ht : f.fallback = some t) : Selects f contents (.text t)
  | nothing (h : f.ReadsVariable contents)
      (hempty : ∀ t, contents.captures.get? f.variableName = some t → t = [])
      (hnone : f.fallback = none) : Selects f contents .nothing

/-- A text that the field selects can be converted. -/
def Converts (f : Field) (contents : Contents) : Prop :=
  ∀ raw, f.Selects contents (.text raw) → ∃ v, f.coerce raw = .ok v

/-- How binding fails at a field with a text that cannot be converted: with an error that names the
field and holds the error of the conversion, or at an integer with too many digits. -/
inductive Refuses (f : Field) (raw : Text) : BindingFailure → Prop
  | malformed (h : f.coerce raw = .error (.refused ⟨f.kind, f.variableName, raw, f.typeName⟩)) :
      Refuses f raw (.refused (.coercion f.name ⟨f.kind, f.variableName, raw, f.typeName⟩))
  | tooLong {n : Numeral} (hkind : f.kind = .integer) (hread : Numeral.read? raw = some n)
      (hlong : Numeral.digitLimit < n.digits.length) :
      Refuses f raw (.tooManyDigits n.digits.length)

end Field

/-- The difference between two records is what the fields received. -/
structure Contents.Writes (contents : Contents) (fields : List Field) (record record' : Record) :
    Prop where
  typeName : record'.typeName = record.typeName
  kind : record'.kind = record.kind
  keys : record'.attributes.keys = record.attributes.keys
  parameters : ∀ f ∈ fields, f.Selects contents .parameters →
    record'.get? f.name = some (.map (contents.query.entries.map fun (k, v) => (k, .text v)))
  text : ∀ f ∈ fields, ∀ raw, f.Selects contents (.text raw) →
    ∃ v, f.coerce raw = .ok v ∧ record'.get? f.name = some v
  nothing : ∀ f ∈ fields, f.Selects contents .nothing →
    record'.get? f.name = record.get? f.name
  others : ∀ name, name ∉ fields.map Field.name → record'.get? name = record.get? name

variable {f : Field} {fields : List Field} {contents : Contents} {record record' record'' : Record}
  {name : Text}

namespace Record.IsWritable

theorem put_eq (h : record.IsWritable f.name) (v : Value) :
    f.put record v = .ok (record.set f.name v) := by
  obtain ⟨hname, hkind⟩ := h
  have hcontains := OrderedMap.contains_iff.2 hname
  unfold Field.put assign write assignUndeclared
  cases hrecord : record.kind with
  | declared frozen hasTemplate =>
    rw [hrecord] at hkind
    obtain rfl : frozen = false := hkind
    simp [hcontains]
  | plain =>
    rw [hrecord] at hkind
    simp only [hkind]
  | value kind =>
    rw [hrecord] at hkind
    cases hkind

theorem of_writes (h : record.IsWritable name) (hwrites : contents.Writes fields record record') :
    record'.IsWritable name := by
  unfold IsWritable at h ⊢
  rwa [hwrites.keys, hwrites.kind, hwrites.typeName]

end Record.IsWritable

namespace Field

theorem isParams_iff : f.isParams = true ↔ f.role = some .params := by simp [isParams]

theorem isScheme_iff : f.isScheme = true ↔ f.role = some .scheme := by simp [isScheme]

theorem readsVariable_iff :
    f.ReadsVariable contents ↔
      f.isParams = false ∧ (f.isScheme && !contents.scheme.isEmpty) = false := by
  rw [← Bool.not_eq_true, ← Bool.not_eq_true, Bool.and_eq_true, isParams_iff, isScheme_iff]
  constructor
  · intro h
    refine ⟨h.params, fun hscheme => ?_⟩
    simp [h.scheme hscheme.1] at hscheme
  · intro h
    refine ⟨h.1, fun hrole => ?_⟩
    simpa [hrole] using h.2

theorem captured_eq_nil_iff :
    f.captured contents.captures = [] ↔
      ∀ t, contents.captures.get? f.variableName = some t → t = [] := by
  unfold captured
  cases contents.captures.get? f.variableName <;> simp

theorem selects_iff {selection : Selection} :
    f.Selects contents selection ↔ f.select contents = selection := by
  constructor
  · intro h
    cases h with
    | parameters h => exact select_of_isParams (isParams_iff.2 h)
    | scheme h hne => exact select_of_isScheme (isScheme_iff.2 h) hne
    | captured h hne ht =>
      exact select_of_not_empty (readsVariable_iff.1 h).1
        (fun hscheme => h.scheme (isScheme_iff.1 hscheme)) hne ht
    | fallback h hempty ht =>
      obtain ⟨hparams, hscheme⟩ := readsVariable_iff.1 h
      simp [select, hparams, hscheme, captured_eq_nil_iff.2 hempty, ht]
    | nothing h hempty hnone =>
      obtain ⟨hparams, hscheme⟩ := readsVariable_iff.1 h
      simp [select, hparams, hscheme, captured_eq_nil_iff.2 hempty, hnone]
  · rintro rfl
    unfold select
    split
    · rename_i hparams
      exact .parameters (isParams_iff.1 hparams)
    rename_i hparams
    split
    · rename_i hscheme
      obtain ⟨hrole, hne⟩ := Bool.and_eq_true_iff.1 hscheme
      exact .scheme (isScheme_iff.1 hrole) (by simpa using hne)
    rename_i hscheme
    have hreads : f.ReadsVariable contents :=
      readsVariable_iff.2 ⟨by simpa using hparams, by simpa using hscheme⟩
    split
    · rename_i hcaptured
      have hne : f.captured contents.captures ≠ [] := by simpa using hcaptured
      refine .captured hreads hne ?_
      unfold captured at hne ⊢
      cases hget : contents.captures.get? f.variableName with
      | none => simp [hget] at hne
      | some t => rfl
    rename_i hcaptured
    have hempty := captured_eq_nil_iff.1 (by simpa using hcaptured)
    split
    · rename_i hfallback
      exact .fallback hreads hempty hfallback
    · rename_i hfallback
      exact .nothing hreads hempty hfallback

theorem Selects.unique {selection selection' : Selection} (h : f.Selects contents selection)
    (h' : f.Selects contents selection') : selection = selection' :=
  (selects_iff.1 h).symm.trans (selects_iff.1 h')

end Field

namespace Contents.Writes

theorem nil : contents.Writes [] record record :=
  ⟨rfl, rfl, rfl, nofun, nofun, nofun, fun _ _ => rfl⟩

theorem of_nothing (h : f.Selects contents .nothing) : contents.Writes [f] record record := by
  refine ⟨rfl, rfl, rfl, ?_, ?_, fun _ _ _ => rfl, fun _ _ => rfl⟩
  · intro g hg hselects
    obtain rfl := List.mem_singleton.1 hg
    cases h.unique hselects
  · intro g hg raw hselects
    obtain rfl := List.mem_singleton.1 hg
    cases h.unique hselects

theorem of_set {v : Value} (hname : f.name ∈ record.attributes.keys)
    (hparameters : f.Selects contents .parameters →
      v = .map (contents.query.entries.map fun (k, v) => (k, .text v)))
    (htext : ∀ raw, f.Selects contents (.text raw) → f.coerce raw = .ok v)
    (hsome : ¬ f.Selects contents .nothing) : contents.Writes [f] record (record.set f.name v) := by
  have hget : (record.set f.name v).get? f.name = some v := by rw [Record.get?_set, if_pos rfl]
  refine ⟨rfl, rfl, OrderedMap.keys_insert v hname, ?_, ?_, ?_, ?_⟩
  · intro g hg hselects
    obtain rfl := List.mem_singleton.1 hg
    rw [hget, hparameters hselects]
  · intro g hg raw hselects
    obtain rfl := List.mem_singleton.1 hg
    exact ⟨v, htext raw hselects, hget⟩
  · intro g hg hselects
    obtain rfl := List.mem_singleton.1 hg
    exact absurd hselects hsome
  · intro name hnot
    have hne : f.name ≠ name := by simpa using Ne.symm (List.ne_of_not_mem_cons hnot)
    rw [Record.get?_set, if_neg hne]

/-- Fields with other names do not spoil what a field received. -/
theorem cons (hnew : f.name ∉ fields.map Field.name) (h : contents.Writes [f] record record')
    (hrest : contents.Writes fields record' record'') :
    contents.Writes (f :: fields) record record'' := by
  have hkept : record''.get? f.name = record'.get? f.name := hrest.others f.name hnew
  have hself : f ∈ [f] := List.mem_singleton.2 rfl
  refine ⟨hrest.typeName.trans h.typeName, hrest.kind.trans h.kind, hrest.keys.trans h.keys,
    ?_, ?_, ?_, ?_⟩
  · intro g hg hselects
    rcases List.mem_cons.1 hg with rfl | hg
    · rw [hkept, h.parameters g hself hselects]
    · exact hrest.parameters g hg hselects
  · intro g hg raw hselects
    rcases List.mem_cons.1 hg with rfl | hg
    · rw [hkept]
      exact h.text g hself raw hselects
    · exact hrest.text g hg raw hselects
  · intro g hg hselects
    rcases List.mem_cons.1 hg with rfl | hg
    · rw [hkept, h.nothing g hself hselects]
    · have hne : g.name ∉ [f].map Field.name := by
        intro hmem
        obtain heq : g.name = f.name := List.mem_singleton.1 hmem
        exact hnew (heq ▸ List.mem_map_of_mem hg)
      rw [hrest.nothing g hg hselects, h.others g.name hne]
  · intro name hname
    obtain ⟨hne, hnot⟩ := not_or.1 (mt List.mem_cons.2 hname)
    rw [hrest.others name hnot, h.others name (mt List.mem_singleton.1 hne)]

end Contents.Writes

namespace Field

theorem exists_write_of_converts (hwritable : record.IsWritable f.name) (h : f.Converts contents) :
    ∃ record', f.write contents record = .ok record' ∧ contents.Writes [f] record record' := by
  unfold write
  cases hselect : f.select contents with
  | nothing => exact ⟨record, rfl, .of_nothing (selects_iff.2 hselect)⟩
  | parameters =>
    have hparameters : f.Selects contents .parameters := selects_iff.2 hselect
    refine ⟨_, hwritable.put_eq _, .of_set hwritable.1 (fun _ => rfl) ?_ ?_⟩
    · intro raw hselects
      cases hparameters.unique hselects
    · intro hselects
      cases hparameters.unique hselects
  | text raw =>
    have htext : f.Selects contents (.text raw) := selects_iff.2 hselect
    obtain ⟨v, hv⟩ := h raw htext
    simp only [hv]
    refine ⟨_, hwritable.put_eq v, .of_set hwritable.1 ?_ ?_ ?_⟩
    · intro hselects
      cases htext.unique hselects
    · intro raw' hselects
      cases htext.unique hselects
      exact hv
    · intro hselects
      cases htext.unique hselects

theorem exists_refuses (hkind : f.kind ≠ .untyped) (h : ¬ f.Converts contents) :
    ∃ raw failure, f.Selects contents (.text raw) ∧ f.Refuses raw failure ∧
      ∀ record, f.write contents record = .error failure := by
  obtain ⟨raw, hnot⟩ := not_forall.1 h
  obtain ⟨hselects, hfails⟩ := Classical.not_imp.1 hnot
  have hselect := selects_iff.1 hselects
  cases hcoerce : f.coerce raw with
  | ok v => exact absurd ⟨v, hcoerce⟩ hfails
  | error failure =>
    refine ⟨raw, failure.toBindingFailure f.name, hselects, ?_, ?_⟩
    · rcases coerce_eq_error hkind hcoerce with rfl | ⟨hinteger, n, hread, hlong, rfl⟩
      · exact .malformed hcoerce
      · exact .tooLong hinteger hread hlong
    · intro record
      simp only [write, hselect, hcoerce]

end Field

namespace Contents

theorem exists_bind_of_converts (hwritable : ∀ f ∈ fields, record.IsWritable f.name)
    (hnodup : (fields.map Field.name).Nodup) (h : ∀ f ∈ fields, f.Converts contents) :
    ∃ record', contents.bind fields record = (record', none) ∧
      contents.Writes fields record record' := by
  induction fields generalizing record with
  | nil => exact ⟨record, rfl, .nil⟩
  | cons f rest ih =>
    obtain ⟨hnew, hnodup⟩ := List.nodup_cons.1 hnodup
    obtain ⟨mid, hwrite, hfirst⟩ := f.exists_write_of_converts
      (hwritable f List.mem_cons_self) (h f List.mem_cons_self)
    obtain ⟨record', hbind, hrest⟩ := ih
      (fun g hg => (hwritable g (List.mem_cons_of_mem f hg)).of_writes hfirst) hnodup
      (fun g hg => h g (List.mem_cons_of_mem f hg))
    refine ⟨record', ?_, hfirst.cons hnew hrest⟩
    rw [bind, hwrite]
    exact hbind

/-- If every text that a field selects can be converted, binding gives the fields what they select and
changes nothing else. If not, it fails at the first field whose text cannot be converted, and changes
the record as binding the fields in front of that one does. -/
theorem bind_selections {contents : Contents} {fields : List Field} {record : Record}
    (hwritable : ∀ f ∈ fields, record.IsWritable f.name) (hnodup : (fields.map Field.name).Nodup)
    (hkinds : ∀ f ∈ fields, f.kind ≠ .untyped) :
    ((∀ f ∈ fields, f.Converts contents) →
      ∃ record', contents.bind fields record = (record', none) ∧
        contents.Writes fields record record') ∧
    ((¬ ∀ f ∈ fields, f.Converts contents) →
      ∃ before f behind raw failure record', fields = before ++ f :: behind ∧
        (∀ g ∈ before, g.Converts contents) ∧ f.Selects contents (.text raw) ∧
        f.Refuses raw failure ∧ contents.bind fields record = (record', some failure) ∧
        contents.Writes before record record') := by
  refine ⟨exists_bind_of_converts hwritable hnodup, fun hnot => ?_⟩
  obtain ⟨before, f, behind, rfl, hbefore, hf⟩ := exists_first_not hnot
  have hmem : f ∈ before ++ f :: behind := List.mem_append_right _ List.mem_cons_self
  obtain ⟨raw, failure, hselects, hrefuses, hwrite⟩ := f.exists_refuses (hkinds f hmem) hf
  have hnodup' : (before.map Field.name).Nodup := by
    rw [List.map_append] at hnodup
    exact (List.nodup_append.1 hnodup).1
  obtain ⟨record', hbind, hwrites⟩ := exists_bind_of_converts
    (fun g hg => hwritable g (List.mem_append_left _ hg)) hnodup' hbefore
  exact ⟨before, f, behind, raw, failure, record', rfl, hbefore, hselects, hrefuses,
    bind_eq_some.2 ⟨before, f, behind, rfl, hbind, hwrite record'⟩, hwrites⟩

/-- Fields with a scheme, a default, parameters and nothing at all; and a port that is no number, behind
which nothing is written. -/
theorem bind_selections_port :
    let scheme := Field.create .string ['s'] [] none (some .scheme)
    let port := Field.create .integer ['p'] [] (some ['1']) none
    let params := Field.create .map ['q'] [] none (some .params)
    let host := Field.create .string ['h'] [] none none
    let fields := [scheme, port, params, host]
    let query : Query := ⟨[(['k'], ['v']), (['a'], [])]⟩
    let contents : Contents := ⟨⟨[(['P'], [])]⟩, ['u'], query⟩
    let badContents : Contents := ⟨⟨[(['P'], ['x']), (['H'], ['b'])]⟩, ['u'], query⟩
    let record : Record := ⟨['R'], .declared false true,
      ⟨[(['h'], .text ['a']), (['p'], .int 0), (['q'], .null), (['s'], .text [])]⟩⟩
    (∃ record', contents.bind fields record = (record', none) ∧
      contents.Writes fields record record' ∧ record'.get? ['s'] = some (.text ['u']) ∧
      record'.get? ['p'] = some (.int 1) ∧
      record'.get? ['q'] = some (.map [(['k'], .text ['v']), (['a'], .text [])]) ∧
      record'.get? ['h'] = some (.text ['a'])) ∧
    ∃ record', badContents.bind fields record =
        (record', some (.refused (.coercion ['p'] ⟨.integer, ['P'], ['x'], "integer".toList⟩))) ∧
      badContents.Writes [scheme] record record' := by
  intro scheme port params host fields query contents badContents record
  have hwritable : ∀ f ∈ fields, record.IsWritable f.name := by
    unfold Record.IsWritable
    decide
  have hnodup : (fields.map Field.name).Nodup := by decide
  have hkinds : ∀ f ∈ fields, f.kind ≠ .untyped := by decide
  refine ⟨?_, ?_⟩
  · have hscheme : scheme.Selects contents (.text ['u']) := Field.selects_iff.2 (by decide)
    have hport : port.Selects contents (.text ['1']) := Field.selects_iff.2 (by decide)
    have hparams : params.Selects contents .parameters := Field.selects_iff.2 (by decide)
    have hhost : host.Selects contents .nothing := Field.selects_iff.2 (by decide)
    have hconverts : ∀ f ∈ fields, f.Converts contents := by
      rw [List.forall_mem_cons, List.forall_mem_cons, List.forall_mem_cons, List.forall_mem_singleton]
      refine ⟨?_, ?_, ?_, ?_⟩ <;> intro raw hselects
      · obtain rfl := Selection.text.inj (hscheme.unique hselects)
        exact ⟨.text ['u'], rfl⟩
      · obtain rfl := Selection.text.inj (hport.unique hselects)
        exact ⟨.int 1, rfl⟩
      · cases hparams.unique hselects
      · cases hhost.unique hselects
    obtain ⟨record', hbind, hwrites⟩ := (bind_selections hwritable hnodup hkinds).1 hconverts
    obtain ⟨v, hv, hscheme⟩ := hwrites.text scheme (by decide) ['u'] hscheme
    obtain rfl : Value.text ['u'] = v := Except.ok.inj hv
    obtain ⟨v, hv, hport⟩ := hwrites.text port (by decide) ['1'] hport
    obtain rfl : Value.int 1 = v := Except.ok.inj hv
    exact ⟨record', hbind, hwrites, hscheme, hport, hwrites.parameters params (by decide) hparams,
      hwrites.nothing host (by decide) hhost⟩
  · have hselect : port.Selects badContents (.text ['x']) := Field.selects_iff.2 (by decide)
    have hport : ¬ port.Converts badContents := by
      intro h
      obtain ⟨v, hv⟩ := h ['x'] hselect
      cases hv
    obtain ⟨before, f, behind, raw, failure, record', heq, hbefore, hselects, hrefuses, hbind,
      hwrites⟩ := (bind_selections hwritable hnodup hkinds).2 fun h => hport (h port (by decide))
    cases before with
    | nil =>
      obtain ⟨rfl, -⟩ := List.cons.inj heq
      cases hrefuses with
      | malformed h => cases h
      | tooLong hkind _ _ => cases hkind
    | cons g before =>
      obtain ⟨rfl, hrest⟩ := List.cons.inj heq
      cases before with
      | nil =>
        obtain ⟨rfl, -⟩ := List.cons.inj hrest
        cases hselects.unique hselect
        cases hrefuses with
        | malformed _ => exact ⟨record', hbind, hwrites⟩
        | tooLong _ hread _ => cases hread
      | cons _ before =>
        obtain ⟨rfl, -⟩ := List.cons.inj hrest
        exact absurd (hbefore port (by simp)) hport

end Contents

end DsnBinding
