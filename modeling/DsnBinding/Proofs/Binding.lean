import DsnBinding.Binding
import DsnBinding.Proofs.Record.Declared

/-!
Binding into records of a declared type. If the type is not frozen and every text that a field
selects can be converted, binding succeeds. Wherever it succeeds, each field holds what it received,
a field that received nothing keeps its value, and so does every attribute without a field.
-/
namespace DsnBinding

/-- The value that a field receives, if any. -/
def Field.received? (f : Field) (contents : Contents) : Option Value :=
  match f.select contents with
  | .nothing => none
  | .parameters => some (.ofQuery contents.query)
  | .text raw => (f.coerce raw).toOption

/-- Whether a field can be written to the records of a type, whatever is in them. -/
structure Field.Receives (f : Field) (d : Declaration) (contents : Contents) : Prop where
  name : f.name ∈ d.names
  coerce : ∀ raw, f.select contents = .text raw → ∃ v, f.coerce raw = .ok v

namespace Field

theorem select_of_isParams {f : Field} {contents : Contents} (h : f.isParams = true) :
    f.select contents = .parameters := by
  rw [select, if_pos h]

/-- The scheme that was matched goes before a captured text. -/
theorem select_of_isScheme {f : Field} {contents : Contents} (h : f.isScheme = true)
    (hscheme : contents.scheme ≠ []) : f.select contents = .text contents.scheme := by
  have hparams : f.isParams = false := by
    simp only [isScheme, beq_iff_eq] at h
    simp [isParams, h]
  simp [select, hparams, h, hscheme]

theorem select_of_not_empty {f : Field} {contents : Contents} {t : Text}
    (hparams : f.isParams = false) (hscheme : f.isScheme = true → contents.scheme = [])
    (hne : t ≠ []) (ht : contents.captures.get? f.variableName = some t) :
    f.select contents = .text t := by
  have hnot : (f.isScheme && !contents.scheme.isEmpty) = false := by
    cases h : f.isScheme with
    | false => rfl
    | true => simp [hscheme h]
  simp [select, hparams, hnot, captured, ht, hne]

theorem select_of_captured {f : Field} {contents : Contents} {t : Text} (h : f.role = none)
    (hne : t ≠ []) (ht : contents.captures.get? f.variableName = some t) :
    f.select contents = .text t :=
  select_of_not_empty (by simp [isParams, h]) (by simp [isScheme, h]) hne ht

theorem coerce_of_string {f : Field} (h : f.kind = .string) (raw : Text) :
    f.coerce raw = .ok (.text raw) := by
  simp [coerce, h]

end Field

/-- Text that cannot be converted is refused, or it is a numeral with too many digits. -/
theorem Field.coerce_eq_error {f : Field} {raw : Text} {failure : CoercionFailure} (hkind : f.kind ≠ .untyped)
    (h : f.coerce raw = .error failure) :
    failure = f.refuse raw ∨ f.kind = .integer ∧ ∃ n, Numeral.read? raw = some n ∧
      Numeral.digitLimit < n.digits.length ∧ failure = .tooManyDigits n.digits.length := by
  unfold coerce at h
  split at h
  · cases h
  · rename_i hinteger
    split at h
    · exact Or.inl (Except.error.inj h).symm
    · rename_i n hread
      split at h
      · cases h
      · exact Or.inr ⟨hinteger, n, hread, by omega, (Except.error.inj h).symm⟩
  · split at h
    · exact Or.inl (Except.error.inj h).symm
    · cases h
  · dsimp only at h
    split at h
    · exact Or.inl (Except.error.inj h).symm
    · cases h
  · rename_i huntyped
    exact absurd huntyped hkind

variable {d : Declaration} {contents : Contents} {record : Record}

theorem Field.put_eq (f : Field) (hrecord : record.IsOf d) (hfrozen : d.frozen = false)
    (hname : f.name ∈ d.names) (v : Value) : f.put record v = .ok (record.set f.name v) := by
  rw [put, hrecord.assign_eq hfrozen hname v]

theorem Field.put_cases {f : Field} (hrecord : record.IsOf d) (hname : f.name ∈ d.names)
    (v : Value) :
    f.put record v = .ok (record.set f.name v) ∨
      f.put record v = .error (.refused (.readOnly f.name record.typeName .frozen)) := by
  cases hfrozen : d.frozen with
  | false => exact Or.inl (f.put_eq hrecord hfrozen hname v)
  | true =>
    right
    have hkind : record.kind = .declared true d.template.isSome := by
      rw [hrecord.kind, Declaration.kind, hfrozen]
    simp [put, Record.assign, hkind]

/-- What one field does: the record is given what the field receives, if it receives anything. -/
theorem Field.write_eq_ok {f : Field} {record' : Record} (hrecord : record.IsOf d)
    (hname : f.name ∈ d.names) (h : f.write contents record = .ok record') :
    f.received? contents = none ∧ record' = record ∨
      ∃ v, f.received? contents = some v ∧ record' = record.set f.name v := by
  have hput : ∀ v, f.put record v = .ok record' → record' = record.set f.name v := by
    intro v hput
    rcases f.put_cases hrecord hname v with hok | herror
    · exact Except.ok.inj (hput.symm.trans hok)
    · rw [herror] at hput
      cases hput
  unfold write at h
  unfold received?
  cases hselect : f.select contents with
  | nothing =>
    rw [hselect] at h
    exact Or.inl ⟨rfl, (Except.ok.inj h).symm⟩
  | parameters =>
    rw [hselect] at h
    exact Or.inr ⟨_, rfl, hput _ h⟩
  | text raw =>
    rw [hselect] at h
    cases hcoerce : f.coerce raw with
    | error failure => simp [hcoerce] at h
    | ok v =>
      simp only [hcoerce] at h
      exact Or.inr ⟨v, by simp only [hcoerce, Except.toOption], hput v h⟩

theorem Field.isOf_of_write {f : Field} {record' : Record} (hrecord : record.IsOf d)
    (hname : f.name ∈ d.names) (h : f.write contents record = .ok record') : record'.IsOf d := by
  rcases f.write_eq_ok hrecord hname h with ⟨-, rfl⟩ | ⟨v, -, rfl⟩
  · exact hrecord
  · exact hrecord.set hname v

theorem Field.exists_write {f : Field} (hrecord : record.IsOf d) (hfrozen : d.frozen = false)
    (h : f.Receives d contents) : ∃ record', f.write contents record = .ok record' := by
  unfold write
  cases hselect : f.select contents with
  | nothing => exact ⟨record, rfl⟩
  | parameters => exact ⟨_, f.put_eq hrecord hfrozen h.name _⟩
  | text raw =>
    obtain ⟨v, hv⟩ := h.coerce raw hselect
    simp only [hv]
    exact ⟨_, f.put_eq hrecord hfrozen h.name v⟩

namespace Contents

theorem isOf_of_bind {fields : List Field} {record' : Record} (hrecord : record.IsOf d)
    (hnames : ∀ f ∈ fields, f.name ∈ d.names)
    (h : contents.bind fields record = (record', none)) : record'.IsOf d := by
  induction fields generalizing record with
  | nil =>
    obtain rfl : record = record' := by simpa [bind] using h
    exact hrecord
  | cons f rest ih =>
    unfold bind at h
    split at h
    · rename_i record'' hwrite
      exact ih (f.isOf_of_write hrecord (hnames f List.mem_cons_self) hwrite)
        (fun g hg => hnames g (List.mem_cons_of_mem f hg)) h
    · cases h

/-- No field spoils what another has received, and nothing else has changed. -/
theorem get?_of_bind {fields : List Field} {record' : Record} (hrecord : record.IsOf d)
    (hnames : ∀ f ∈ fields, f.name ∈ d.names) (hnodup : (fields.map Field.name).Nodup)
    (h : contents.bind fields record = (record', none)) :
    (∀ f ∈ fields, record'.get? f.name = (f.received? contents).or (record.get? f.name)) ∧
      ∀ name, name ∉ fields.map Field.name → record'.get? name = record.get? name := by
  induction fields generalizing record with
  | nil =>
    obtain rfl : record = record' := by simpa [bind] using h
    exact ⟨by simp, fun _ _ => rfl⟩
  | cons f rest ih =>
    obtain ⟨hfirst, hrest⟩ := List.nodup_cons.1 hnodup
    unfold bind at h
    split at h
    · rename_i record'' hwrite
      have hname := hnames f List.mem_cons_self
      obtain ⟨hgets, hframes⟩ := ih (f.isOf_of_write hrecord hname hwrite)
        (fun g hg => hnames g (List.mem_cons_of_mem f hg)) hrest h
      have hget : record''.get? f.name = (f.received? contents).or (record.get? f.name) ∧
          ∀ name, name ≠ f.name → record''.get? name = record.get? name := by
        rcases f.write_eq_ok hrecord hname hwrite with ⟨hnone, rfl⟩ | ⟨v, hsome, rfl⟩
        · exact ⟨by rw [hnone, Option.none_or], fun _ _ => rfl⟩
        · refine ⟨by rw [hsome, Record.get?_set, if_pos rfl, Option.some_or], ?_⟩
          intro name hne
          rw [Record.get?_set, if_neg hne.symm]
      refine ⟨?_, ?_⟩
      · intro g hg
        rcases List.mem_cons.1 hg with rfl | hg
        · rw [hframes g.name hfirst, hget.1]
        · have hne : g.name ≠ f.name := fun e => hfirst (e ▸ List.mem_map_of_mem hg)
          rw [hgets g hg, hget.2 g.name hne]
      · intro name hname
        obtain ⟨hne, hnot⟩ := not_or.1 (mt List.mem_cons.2 hname)
        rw [hframes name hnot, hget.2 name hne]
    · cases h

theorem exists_bind_eq {fields : List Field} (hrecord : record.IsOf d) (hfrozen : d.frozen = false)
    (hreceives : ∀ f ∈ fields, f.Receives d contents) :
    ∃ record', contents.bind fields record = (record', none) := by
  induction fields generalizing record with
  | nil => exact ⟨record, rfl⟩
  | cons f rest ih =>
    have hf := hreceives f List.mem_cons_self
    obtain ⟨record', hwrite⟩ := f.exists_write hrecord hfrozen hf
    rw [bind, hwrite]
    exact ih (f.isOf_of_write hrecord hf.name hwrite)
      fun g hg => hreceives g (List.mem_cons_of_mem f hg)

theorem exists_bind {fields : List Field} (hrecord : record.IsOf d)
    (hfrozen : d.frozen = false) (hreceives : ∀ f ∈ fields, f.Receives d contents)
    (hnodup : (fields.map Field.name).Nodup) :
    ∃ record', contents.bind fields record = (record', none) ∧ record'.IsOf d ∧
      (∀ f ∈ fields, record'.get? f.name = (f.received? contents).or (record.get? f.name)) ∧
      ∀ name, name ∉ fields.map Field.name → record'.get? name = record.get? name := by
  obtain ⟨record', hbind⟩ := exists_bind_eq hrecord hfrozen hreceives
  have hnames : ∀ f ∈ fields, f.name ∈ d.names := fun f hf => (hreceives f hf).name
  exact ⟨record', hbind, isOf_of_bind hrecord hnames hbind,
    get?_of_bind hrecord hnames hnodup hbind⟩

theorem coerce_of_bind {fields : List Field} {record' : Record}
    (h : contents.bind fields record = (record', none)) {f : Field} (hf : f ∈ fields) {raw : Text}
    (hraw : f.select contents = .text raw) : ∃ v, f.coerce raw = .ok v := by
  induction fields generalizing record with
  | nil => cases hf
  | cons g rest ih =>
    unfold bind at h
    split at h
    · rename_i record'' hwrite
      rcases List.mem_cons.1 hf with rfl | hf
      · cases hcoerce : f.coerce raw with
        | ok v => exact ⟨v, rfl⟩
        | error failure => simp [Field.write, hraw, hcoerce] at hwrite
      · exact ih h hf
    · cases h

theorem bind_eq_some {fields : List Field} {record' : Record} {assign : Assignment}
    {failure : BindingFailure} :
    contents.bind fields record assign = (record', some failure) ↔
      ∃ before f behind, fields = before ++ f :: behind ∧
        contents.bind before record assign = (record', none) ∧
        f.write contents record' assign = .error failure := by
  induction fields generalizing record with
  | nil => simp [bind]
  | cons g rest ih =>
    cases hwrite : g.write contents record assign with
    | error failure' =>
      constructor
      · intro h
        obtain ⟨rfl, hfailure⟩ : record = record' ∧ some failure' = some failure := by
          simpa [bind, hwrite] using h
        obtain rfl := Option.some.inj hfailure
        exact ⟨[], g, rest, rfl, rfl, hwrite⟩
      · intro hsome
        obtain ⟨before, f, behind, hsplit, hbefore, hf⟩ := hsome
        cases before with
        | nil =>
          obtain ⟨rfl, rfl⟩ := List.cons.inj hsplit
          obtain rfl : record = record' := by simpa [bind] using hbefore
          rw [hwrite] at hf
          obtain rfl := Except.error.inj hf
          simp [bind, hwrite]
        | cons g' before =>
          obtain ⟨rfl, -⟩ := List.cons.inj hsplit
          simp [bind, hwrite] at hbefore
    | ok record'' =>
      rw [bind, hwrite]
      dsimp only
      rw [ih]
      constructor
      · intro hsome
        obtain ⟨before, f, behind, rfl, hbefore, hf⟩ := hsome
        refine ⟨g :: before, f, behind, rfl, ?_, hf⟩
        simpa [bind, hwrite] using hbefore
      · intro hsome
        obtain ⟨before, f, behind, hsplit, hbefore, hf⟩ := hsome
        cases before with
        | nil =>
          obtain ⟨rfl, rfl⟩ := List.cons.inj hsplit
          obtain rfl : record = record' := by simpa [bind] using hbefore
          rw [hwrite] at hf
          cases hf
        | cons g' before =>
          obtain ⟨rfl, rfl⟩ := List.cons.inj hsplit
          refine ⟨before, f, behind, rfl, ?_, hf⟩
          simpa [bind, hwrite] using hbefore

end Contents

end DsnBinding
