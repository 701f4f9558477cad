import DsnBinding.Metadata

/-!
What metadata says. Metadata is read exactly if it is an object that holds nothing but declared keys,
each with what its key allows or null, or if there is none.
-/
namespace DsnBinding

@[simp]
theorem Datum.isNull_iff {data : Datum} : data.isNull = true ↔ data = .null := by
  cases data <;> simp [isNull]

/-- A text that may be missing, as data. -/
def Datum.ofText? : Option Text → Datum
  | none => .null
  | some t => .text t

namespace FieldKind

theorem ofLabel?_eq_some {label : Text} {kind : FieldKind} :
    ofLabel? label = some kind ↔ kind ∈ typed ∧ kind.label = label := by
  unfold ofLabel?
  constructor
  · intro h
    exact ⟨List.mem_of_find?_eq_some h, by simpa using List.find?_some h⟩
  · rintro ⟨hkind, rfl⟩
    revert kind
    decide

end FieldKind

theorem Role.label_ofLabel (label : Text) : (ofLabel label).label = label := by
  unfold ofLabel
  split
  · rename_i h
    exact h.symm
  split
  · rename_i h
    exact h.symm
  · rfl

namespace Metadata

/-- What the members of an object say: no key is unknown, and what stands under a declared key is the
text, the label or the truth value that the metadata has, or null. -/
structure IsStatedBy (metadata : Metadata) (members : List (Text × Datum)) : Prop where
  keys : ∀ key ∈ members.map Prod.fst, key ∈ declaredKeys
  variableName : member members variableKey = .ofText? metadata.variableName
  identifier : ∀ name, metadata.variableName = some name → Template.isIdentifier name = true
  fallback : member members defaultKey = .ofText? metadata.fallback
  role : member members roleKey = .ofText? (metadata.role.map Role.label)
  knownRole : ∀ role, metadata.role = some role → role = .scheme ∨ role = .params
  kind : member members kindKey = .ofText? (metadata.kind.map FieldKind.label)
  typed : ∀ kind, metadata.kind = some kind → kind ∈ FieldKind.typed
  skip : member members skipKey = .bool metadata.skip ∨
    member members skipKey = .null ∧ metadata.skip = false

/-- What data says as metadata. Everything that counts as no says nothing. -/
inductive States : Datum → Metadata → Prop
  | nothing {data : Datum} (h : data.isTruthy = false) : States data empty
  | object {members : List (Text × Datum)} {metadata : Metadata} (hne : members ≠ [])
      (h : metadata.IsStatedBy members) : States (.object members) metadata

variable {data : Datum} {metadata : Metadata} {members : List (Text × Datum)}

/-- No name of a variable is empty. -/
theorem States.ne_nil (h : States data metadata) {name : Text}
    (hname : metadata.variableName = some name) : name ≠ [] := by
  rintro rfl
  cases h with
  | nothing _ => cases hname
  | object _ h => cases h.identifier [] hname

theorem readText_eq_ok {text : Option Text} : readText data = .ok text ↔ data = .ofText? text := by
  unfold readText Datum.ofText?
  cases data <;> cases text <;> simp

theorem readName_eq_ok {name : Option Text} :
    readName data = .ok name ↔
      data = .ofText? name ∧ ∀ t, name = some t → Template.isIdentifier t = true := by
  unfold readName Datum.ofText?
  cases data with
  | text t =>
    by_cases ht : Template.isIdentifier t = true
    · cases name with
      | none => simp [ht]
      | some t' =>
        simp only [ht, if_true, Except.ok.injEq, Option.some.injEq, Datum.text.injEq]
        exact ⟨fun h => ⟨h, fun _ h' => h' ▸ h ▸ ht⟩, And.left⟩
    · cases name with
      | none => simp [ht]
      | some t' =>
        simp only [ht, Option.some.injEq, Datum.text.injEq]
        exact ⟨nofun, fun h => absurd (h.1 ▸ h.2 t' rfl) ht⟩
  | null => cases name <;> simp
  | bool _ | number _ _ | list _ | object _ => cases name <;> simp

theorem readRole_eq_ok {role : Option Role} :
    readRole data = .ok role ↔ data = .ofText? (role.map Role.label) ∧
      ∀ r, role = some r → r = .scheme ∨ r = .params := by
  constructor
  · intro h
    unfold readRole at h
    split at h
    · obtain rfl := Except.ok.inj h
      exact ⟨rfl, nofun⟩
    · rename_i t
      split at h
      · cases h
      · rename_i hother
        obtain rfl := Except.ok.inj h
        have hknown : Role.ofLabel t = .scheme ∨ Role.ofLabel t = .params := by
          cases hrole : Role.ofLabel t with
          | scheme => exact Or.inl rfl
          | params => exact Or.inr rfl
          | other label => exact absurd hrole (hother label)
        exact ⟨congrArg Datum.text (Role.label_ofLabel t).symm,
          fun r hr => Option.some.inj hr ▸ hknown⟩
    · cases h
  · rintro ⟨rfl, hknown⟩
    cases role with
    | none => rfl
    | some r => rcases hknown r rfl with rfl | rfl <;> rfl

theorem readKind_eq_ok {kind : Option FieldKind} :
    readKind data = .ok kind ↔ data = .ofText? (kind.map FieldKind.label) ∧
      ∀ k, kind = some k → k ∈ FieldKind.typed := by
  constructor
  · intro h
    unfold readKind at h
    split at h
    · obtain rfl := Except.ok.inj h
      exact ⟨rfl, nofun⟩
    · split at h
      · rename_i t k hlabel
        obtain rfl := Except.ok.inj h
        obtain ⟨htyped, rfl⟩ := FieldKind.ofLabel?_eq_some.1 hlabel
        exact ⟨rfl, fun k' hk => Option.some.inj hk ▸ htyped⟩
      · cases h
    · cases h
  · rintro ⟨rfl, htyped⟩
    cases kind with
    | none => rfl
    | some k =>
      have hlabel := FieldKind.ofLabel?_eq_some.2 ⟨htyped k rfl, rfl⟩
      simp [readKind, Datum.ofText?, hlabel]

theorem readSkip_eq_ok {skip : Bool} :
    readSkip data = .ok skip ↔ data = .bool skip ∨ data = .null ∧ skip = false := by
  unfold readSkip
  cases data <;> simp [eq_comm]

theorem unknownKeys_eq_nil :
    unknownKeys members = [] ↔ ∀ key ∈ members.map Prod.fst, key ∈ declaredKeys := by
  simp [unknownKeys, List.filter_eq_nil_iff]

/-- An object is read if each of its parts is. -/
theorem ofMembers_eq_ok : ofMembers members = .ok metadata ↔ metadata.IsStatedBy members := by
  constructor
  · intro h
    unfold ofMembers at h
    dsimp only at h
    split at h
    · rename_i hname hfallback hrole hkind hskip hkeys
      obtain rfl := Except.ok.inj h
      obtain ⟨hname, hidentifier⟩ := readName_eq_ok.1 hname
      obtain ⟨hrole, hknown⟩ := readRole_eq_ok.1 hrole
      obtain ⟨hkind, htyped⟩ := readKind_eq_ok.1 hkind
      exact ⟨unknownKeys_eq_nil.1 hkeys, hname, hidentifier, readText_eq_ok.1 hfallback, hrole,
        hknown, hkind, htyped, readSkip_eq_ok.1 hskip⟩
    · cases h
  · intro h
    unfold ofMembers
    simp only [readName_eq_ok.2 ⟨h.variableName, h.identifier⟩, readText_eq_ok.2 h.fallback,
      readRole_eq_ok.2 ⟨h.role, h.knownRole⟩, readKind_eq_ok.2 ⟨h.kind, h.typed⟩,
      readSkip_eq_ok.2 h.skip, unknownKeys_eq_nil.2 h.keys]

theorem read_eq_ok : read data = .ok metadata ↔ States data metadata := by
  unfold read
  constructor
  · intro h
    split at h
    · split at h
      · rename_i members htruthy
        exact .object (by simpa [Datum.isTruthy] using htruthy) (ofMembers_eq_ok.1 h)
      · cases h
    · rename_i hnothing
      obtain rfl := Except.ok.inj h
      exact .nothing (by simpa using hnothing)
  · intro h
    cases h with
    | nothing hnothing => rw [hnothing]; rfl
    | object hne h =>
      rw [if_pos (by simpa [Datum.isTruthy] using hne)]
      exact ofMembers_eq_ok.2 h

end Metadata

end DsnBinding
