import DsnBinding.Field.Coercion
import DsnBinding.Proofs.Field.Numeral
import DsnBinding.Proofs.Query.RoundTrip
import Mathlib.Data.Nat.Digits.Lemmas

/-!
Conversion there and back. What a field reads from a text, it reads again from the text that it writes
for it: the text may be another one, as other letters of a truth value, leading zeros and empty
parameters are not kept, but the value is the same. The values that are read back are all texts, both
truth values, the integers that have not too many digits and the maps that come back as a query.
-/
namespace DsnBinding.Field

/-- The text that the field writes for the value stands for the value again. -/
def ReadsBack (f : Field) (v : Value) : Prop := ∃ t, f.toText v = .ok t ∧ f.coerce t = .ok v

variable {f : Field} {raw : Text}

theorem isTooLong_ofQuery (query : Query) : (Value.ofQuery query).isTooLong = false := by
  obtain ⟨entries⟩ := query
  unfold Value.ofQuery Value.isTooLong
  induction entries with
  | nil => rfl
  | cons pair rest ih =>
    rw [List.map_cons, Value.areTooLong, ih]
    rfl

theorem toText_ofQuery (h : f.kind = .map) (query : Query) :
    f.toText (.ofQuery query) = .ok query.render := by
  obtain ⟨entries⟩ := query
  cases entries with
  | nil =>
    simp [toText, h, Value.ofQuery, Value.isTruthy, Query.render, Query.renderPairs, Text.joined]
  | cons pair rest =>
    have hshort := isTooLong_ofQuery ⟨pair :: rest⟩
    unfold Value.ofQuery at hshort ⊢
    simp only [toText, h, mapText, hshort]
    simp [Value.isTruthy, Query.render, Value.display, Function.comp_def]

theorem readsBack_text (h : f.kind = .string) (t : Text) : f.ReadsBack (.text t) :=
  ⟨t, by simp [toText, h, Value.isTooLong, Value.display], by simp [coerce, h]⟩

theorem readsBack_bool (h : f.kind = .bool) (b : Bool) : f.ReadsBack (.bool b) := by
  cases b with
  | true =>
    exact ⟨"true".toList, by simp [toText, h, Value.isTruthy], by simp [coerce, h, readBool?]⟩
  | false =>
    exact ⟨"false".toList, by simp [toText, h, Value.isTruthy], by simp [coerce, h, readBool?]⟩

/-- A field of integers converts the numerals that have not too many digits. -/
theorem coerce_eq_ok_iff_spells (h : f.kind = .integer) {v : Value} :
    f.coerce raw = .ok v ↔
      ∃ n, Numeral.Spells raw n ∧ n.digits.length ≤ Numeral.digitLimit ∧ v = .int n.denoted := by
  simp only [coerce, h, ← Numeral.read?_eq_some_iff]
  cases Numeral.read? raw with
  | none => simp
  | some n =>
    by_cases hlength : n.digits.length ≤ Numeral.digitLimit
    · simp [hlength, Numeral.value_eq_denoted, eq_comm]
    · simp [hlength]

theorem readsBack_int (h : f.kind = .integer) {i : Int}
    (hi : (Nat.digits 10 i.natAbs).length ≤ Numeral.digitLimit) : f.ReadsBack (.int i) := by
  obtain ⟨n, hspells, hvalue, hdigits⟩ := Numeral.exists_spells_decimal i
  have hlength : n.digits.length ≤ Numeral.digitLimit := by
    rw [hdigits, Nat.length_toDigits_le_iff (by decide) (by decide)]
    exact (Nat.digits_length_le_iff (by decide) _).1 hi
  have hshort : (Value.int i).isTooLong = false := by
    simpa [Value.isTooLong, ← hdigits] using hlength
  refine ⟨Value.decimal i, by simp [toText, h, hshort, Value.display, Value.shown], ?_⟩
  rw [coerce_eq_ok_iff_spells h]
  exact ⟨n, hspells, hlength, by rw [← hvalue, Numeral.value_eq_denoted]⟩

/-- Only the empty map is written as the empty text, so that no map is refused. -/
theorem readsBack_ofQuery (h : f.kind = .map) {query : Query} (hplain : query.IsPlain) :
    f.ReadsBack (.ofQuery query) := by
  refine ⟨query.render, toText_ofQuery h query, ?_⟩
  have hnot : ¬ (!query.render.isEmpty && query.entries.isEmpty) = true := by
    intro hboth
    obtain ⟨hrender, hentries⟩ := Bool.and_eq_true_iff.1 hboth
    have hnil : query.render = [] := by
      rw [Query.render, List.isEmpty_iff.1 hentries]
      rfl
    simp [hnil] at hrender
  simp only [coerce, h, Query.parse_render hplain, if_neg hnot]

theorem readsBack_of_coerce {v : Value} (h : f.coerce raw = .ok v) : f.ReadsBack v := by
  cases hkind : f.kind with
  | string =>
    obtain rfl : Value.text raw = v := by simpa [coerce, hkind] using h
    exact readsBack_text hkind raw
  | integer =>
    obtain ⟨n, hspells, hlength, rfl⟩ := (coerce_eq_ok_iff_spells hkind).1 h
    rw [← Numeral.value_eq_denoted]
    refine readsBack_int hkind (Nat.le_trans ?_ hlength)
    exact (Nat.digits_length_le_iff (by decide) _).2 (Numeral.natAbs_value_lt hspells.isDigits)
  | bool =>
    simp only [coerce, hkind] at h
    split at h
    · cases h
    · obtain rfl := Except.ok.inj h
      exact readsBack_bool hkind _
  | map =>
    simp only [coerce, hkind] at h
    split at h
    · cases h
    · obtain rfl := Except.ok.inj h
      exact readsBack_ofQuery hkind (Query.isPlain_parse raw)
  | untyped => simp [coerce, hkind] at h

/-- Conversion is stable: what a field reads from a text, it reads back from the text that it writes
for it. It also reads back each text, each integer of at most 4300 digits, each truth value and each
map that can be told apart in a query, by its kind. A field of integers converts exactly the texts of
one to 4300 ASCII digits with or without a sign, and to the integer that these denote. -/
theorem coerce_toText (f : Field) :
    (∀ raw v, f.coerce raw = .ok v → f.ReadsBack v) ∧
      (f.kind = .string → ∀ t, f.ReadsBack (.text t)) ∧
      (f.kind = .integer → ∀ i : Int, (Nat.digits 10 i.natAbs).length ≤ 4300 →
        f.ReadsBack (.int i)) ∧
      (f.kind = .bool → ∀ b, f.ReadsBack (.bool b)) ∧
      (f.kind = .map → ∀ query : Query, query.IsPlain →
        f.ReadsBack (.map (query.entries.map fun (k, v) => (k, .text v)))) ∧
      (f.kind = .integer → ∀ raw v, f.coerce raw = .ok v ↔
        ∃ n, Numeral.Spells raw n ∧ n.digits.length ≤ 4300 ∧ v = .int n.denoted) :=
  ⟨fun _ _ => readsBack_of_coerce, readsBack_text, fun h _ => readsBack_int h, readsBack_bool,
    fun h _ => readsBack_ofQuery h, fun h _ _ => coerce_eq_ok_iff_spells h⟩

/-- Each kind by a value that does not come back as the text that it was read from: a sign and leading
zeros, other letters of a truth value, and a pair without a key between empty pairs. -/
theorem coerce_toText_each_kind :
    let field (kind : FieldKind) := Field.create kind ['p'] [] none none
    let entries : Value := .map [(['k'], .text ['v', '=']), ([], .text ['w'])]
    ((field .string).ReadsBack (.text ['&', '?'])) ∧
      ((field .integer).coerce ['-', '0', '0', '7'] = .ok (.int (-7)) ∧
        (field .integer).ReadsBack (.int (-7)) ∧ (field .integer).coerce ['+', '0'] = .ok (.int 0) ∧
        (field .integer).ReadsBack (.int 0) ∧ ∀ v, (field .integer).coerce ['-'] ≠ .ok v) ∧
      ((field .bool).coerce ['T', 'r', 'U', 'e'] = .ok (.bool true) ∧
        (field .bool).ReadsBack (.bool true) ∧ (field .bool).ReadsBack (.bool false)) ∧
      ((field .map).coerce ['&', 'k', '=', 'v', '=', '&', '&', '=', 'w'] = .ok entries ∧
        (field .map).toText entries = .ok ['k', '=', 'v', '=', '&', '=', 'w'] ∧
        (field .map).ReadsBack entries ∧
        (field .map).ReadsBack (.map [(['a'], .text []), (['b'], .text ['='])])) := by
  intro field entries
  have hseven : (field .integer).coerce ['-', '0', '0', '7'] = .ok (.int (-7)) := by
    refine ((coerce_toText (field .integer)).2.2.2.2.2 rfl _ _).2 ?_
    exact ⟨⟨true, ['0', '0', '7']⟩, .minus ⟨by simp, by simp⟩, by simp, rfl⟩
  have hzero : (field .integer).coerce ['+', '0'] = .ok (.int 0) := by
    refine ((coerce_toText (field .integer)).2.2.2.2.2 rfl _ _).2 ?_
    exact ⟨⟨false, ['0']⟩, .plus ⟨by simp, by simp⟩, by simp, rfl⟩
  have htrue : (field .bool).coerce ['T', 'r', 'U', 'e'] = .ok (.bool true) := rfl
  have hmap : (field .map).coerce ['&', 'k', '=', 'v', '=', '&', '&', '=', 'w'] = .ok entries := rfl
  refine ⟨?_, ⟨hseven, ?_, hzero, ?_, ?_⟩, ⟨htrue, ?_, ?_⟩, ⟨hmap, rfl, ?_, ?_⟩⟩
  · exact (coerce_toText (field .string)).2.1 rfl ['&', '?']
  · exact (coerce_toText (field .integer)).1 _ _ hseven
  · exact (coerce_toText (field .integer)).2.2.1 rfl 0 (by simp)
  · intro v h
    obtain ⟨n, hspells, -, -⟩ := ((coerce_toText (field .integer)).2.2.2.2.2 rfl _ _).1 h
    cases hspells with
    | unsigned h => exact absurd (h.ascii '-' List.mem_cons_self) (by decide)
    | minus h => exact h.ne_nil rfl
  · exact (coerce_toText (field .bool)).1 _ _ htrue
  · exact (coerce_toText (field .bool)).2.2.2.1 rfl false
  · exact (coerce_toText (field .map)).1 _ _ hmap
  · exact (coerce_toText (field .map)).2.2.2.2.1 rfl ⟨[(['a'], []), (['b'], ['='])]⟩
      ⟨by decide, by decide, by decide⟩

end DsnBinding.Field
