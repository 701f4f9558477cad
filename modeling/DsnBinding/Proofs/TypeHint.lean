import DsnBinding.Proofs.Distinct
import DsnBinding.Proofs.Outcome
import DsnBinding.TypeHint

/-!
What type hints come down to. A hint stands for a kind of field if all types that its members mean are
one type that such a field can have, the none type left aside. A hint that is not resolved fails with
the first of its references that means no type.
-/
namespace DsnBinding

/-- The types that a field of a kind can have: the class of its values, or for maps a class of maps or
a generic type made from one. -/
inductive NamedType.StandsFor (type : NamedType) : FieldKind → Prop
  | bool (h : type.identity = .known .bool) : StandsFor type .bool
  | integer (h : type.identity = .known .integer) : StandsFor type .integer
  | string (h : type.identity = .known .string) : StandsFor type .string
  | map {c : KnownClass} (hc : c ∈ mapOrigins)
      (h : type.identity = .known c ∨ type.identity = .madeFrom c) : StandsFor type .map

def HintMember.reference? : HintMember → Option Reference
  | named _ => none
  | reference r => some r

namespace TypeHint

def references (hint : TypeHint) : List Reference := hint.members.filterMap HintMember.reference?

/-- The types that a hint means: those that it names and those that its references mean. -/
def Means (hint : TypeHint) (type : NamedType) : Prop :=
  ∃ member ∈ hint.members, ∃ resolved, member.resolve = .ok resolved ∧ type ∈ resolved.members

/-- The hint means one type, perhaps beside the none type, which a field of the kind can have. -/
def Supports (hint : TypeHint) (kind : FieldKind) : Prop :=
  ∃ type, type.StandsFor kind ∧ hint.Means type ∧
    ∀ other, hint.Means other → other = type ∨ other.identity = .known .noneType

end TypeHint

theorem eq_singleton_of_nodup {α : Type} {a : α} {l : List α} (h : l.Nodup) (ha : a ∈ l)
    (hall : ∀ b ∈ l, b = a) : l = [a] := by
  cases l with
  | nil => cases ha
  | cons b rest =>
    obtain ⟨rfl, hrest⟩ := List.forall_mem_cons.1 hall
    cases rest with
    | nil => rfl
    | cons c rest =>
      obtain rfl := hrest c List.mem_cons_self
      exact absurd List.mem_cons_self (List.nodup_cons.1 h).1

namespace NamedType

variable {type : NamedType} {kind : FieldKind} {c : KnownClass}

theorem isClass_iff : type.isClass c = true ↔ type.identity = .known c := by
  simp [isClass]

theorem origin?_eq_some : type.origin? = some c ↔ type.identity = .madeFrom c := by
  unfold origin?
  cases type.identity <;> simp

theorem kind?_eq_some : type.kind? = some kind ↔ type.StandsFor kind := by
  have hmap : (mapOrigins.any type.isClass || mapOrigins.any (type.origin? == some ·)) = true ↔
      ∃ c ∈ mapOrigins, type.identity = .known c ∨ type.identity = .madeFrom c := by
    simp only [Bool.or_eq_true, List.any_eq_true, beq_iff_eq, isClass_iff, origin?_eq_some,
      ← exists_or, ← and_or_left]
  unfold kind?
  constructor
  · intro h
    split at h
    · rename_i hbool
      obtain rfl := Option.some.inj h
      exact .bool (isClass_iff.1 hbool)
    split at h
    · rename_i hinteger
      obtain rfl := Option.some.inj h
      exact .integer (isClass_iff.1 hinteger)
    split at h
    · rename_i hstring
      obtain rfl := Option.some.inj h
      exact .string (isClass_iff.1 hstring)
    split at h
    · rename_i horigin
      obtain rfl := Option.some.inj h
      obtain ⟨c, hc, h⟩ := hmap.1 horigin
      exact .map hc h
    · cases h
  · intro h
    cases h with
    | bool h => simp [isClass, h]
    | integer h => simp [isClass, h]
    | string h => simp [isClass, h]
    | @map c hc h =>
      have hscalar : ∀ c', c' ∉ mapOrigins → type.isClass c' = false := by
        intro c' hc'
        rw [Bool.eq_false_iff, ne_eq, isClass_iff]
        rintro heq
        rcases h with h | h <;> rw [heq] at h <;> cases h
        exact hc' hc
      rw [hscalar .bool (by decide), hscalar .integer (by decide), hscalar .string (by decide),
        if_pos (hmap.2 ⟨c, hc, h⟩)]
      rfl

theorem kind?_of_noneType (h : type.identity = .known .noneType) : type.kind? = none := by
  simp [kind?, isClass, origin?, mapOrigins, h]

end NamedType

namespace ResolvedType

/-- A union of one member is that member, so all kinds of types are treated alike. -/
theorem kind?_unite (form : TypeForm) (types : List NamedType) :
    (unite form types).kind? =
      match types.eraseDups.filter (!·.isClass .noneType) with
      | [type] => type.kind?
      | _ => none := by
  unfold unite
  split
  · rename_i hnil
    simp [hnil, kind?]
  · rename_i type hsingle
    rw [hsingle]
    by_cases htype : type.isClass .noneType = true
    · simp [htype, kind?, NamedType.kind?_of_noneType (NamedType.isClass_iff.1 htype)]
    · simp [htype, kind?]
  · rfl

/-- Types stand for a kind if all but the none type are one type that does. -/
theorem kind?_unite_eq_some {form : TypeForm} {types : List NamedType} {kind : FieldKind} :
    (unite form types).kind? = some kind ↔
      ∃ type, type.StandsFor kind ∧ type ∈ types ∧
        ∀ other ∈ types, other = type ∨ other.identity = .known .noneType := by
  rw [kind?_unite]
  have hmem : ∀ type, type ∈ types.eraseDups.filter (!·.isClass .noneType) ↔
      type ∈ types ∧ type.identity ≠ .known .noneType := by
    intro type
    rw [List.mem_filter, List.mem_eraseDups, ne_eq, ← NamedType.isClass_iff]
    simp
  constructor
  · intro h
    split at h
    · rename_i type hfilter
      rw [hfilter] at hmem
      refine ⟨type, NamedType.kind?_eq_some.1 h, ((hmem type).1 (List.mem_singleton.2 rfl)).1, ?_⟩
      intro other hother
      by_cases hnone : other.identity = .known .noneType
      · exact Or.inr hnone
      · exact Or.inl (List.mem_singleton.1 ((hmem other).2 ⟨hother, hnone⟩))
    · cases h
  · rintro ⟨type, hkind, htype, hothers⟩
    have hkind := NamedType.kind?_eq_some.2 hkind
    have hsome : type.identity ≠ .known .noneType := by
      intro hnone
      cases (NamedType.kind?_of_noneType hnone).symm.trans hkind
    have hnodup : (types.eraseDups.filter (!·.isClass .noneType)).Nodup :=
      (nodup_eraseDups types).filter _
    have hfilter : types.eraseDups.filter (!·.isClass .noneType) = [type] := by
      refine eq_singleton_of_nodup hnodup ((hmem type).2 ⟨htype, hsome⟩) ?_
      intro other hother
      obtain ⟨hother, hnone⟩ := (hmem other).1 hother
      exact (hothers other hother).resolve_right hnone
    rw [hfilter]
    exact hkind

end ResolvedType

theorem Reference.resolve_eq_error {r : Reference} {error : ReferenceError} :
    r.resolve = .error error ↔ r.meaning = .error error := by
  unfold resolve
  cases r.meaning <;> simp

namespace HintMember

variable {members : List HintMember} {types : List ResolvedType} {error : ReferenceError}

theorem resolveAll_eq_ok : resolveAll members = .ok types ↔ members.map resolve = types.map .ok := by
  induction members generalizing types with
  | nil =>
    cases types <;> simp [resolveAll]
  | cons member rest ih =>
    unfold resolveAll
    cases hmember : member.resolve with
    | error error => cases types <;> simp [hmember]
    | ok type =>
      rw [map_eq_ok]
      cases types with
      | nil => simp
      | cons type' types =>
        simp only [List.map_cons, hmember, List.cons.injEq, Except.ok.injEq, ← ih]
        constructor
        · rintro ⟨others, hothers, rfl, rfl⟩
          exact ⟨rfl, hothers⟩
        · rintro ⟨rfl, hothers⟩
          exact ⟨types, hothers, rfl, rfl⟩

end HintMember

namespace TypeHint

variable {hint : TypeHint} {type : ResolvedType} {error : ReferenceError}

theorem resolve_eq_error :
    hint.resolve = .error error ↔
      FirstFault (fun (r : Reference) error => r.meaning = .error error) hint.references error := by
  unfold resolve references
  rw [map_eq_error]
  induction hint.members with
  | nil => simp [HintMember.resolveAll, not_firstFault_nil]
  | cons member rest ih =>
    unfold HintMember.resolveAll
    cases member with
    | named type =>
      have hskip : (HintMember.named type).reference? = none := rfl
      rw [List.filterMap_cons_none hskip, ← ih]
      exact map_eq_error
    | reference r =>
      have htake : (HintMember.reference r).reference? = some r := rfl
      rw [List.filterMap_cons_some htake, firstFault_cons, ← ih]
      simp only [HintMember.resolve, ← Reference.resolve_eq_error]
      cases r.resolve with
      | error error' => simp
      | ok type => simp [map_eq_error]

/-- A hint that is resolved stands for the kinds that it supports. -/
theorem kind?_eq_some_iff (h : hint.resolve = .ok type) {kind : FieldKind} :
    type.kind? = some kind ↔ hint.Supports kind := by
  obtain ⟨types, htypes, rfl⟩ := map_eq_ok.1 h
  have hmap := HintMember.resolveAll_eq_ok.1 htypes
  have hmem : ∀ type, type ∈ types.flatMap ResolvedType.members ↔ hint.Means type := by
    intro type
    have hresolved : ∀ resolved, resolved ∈ types ↔
        ∃ member ∈ hint.members, member.resolve = .ok resolved := by
      intro resolved
      rw [← List.mem_map, hmap]
      simp
    simp only [List.mem_flatMap, hresolved, Means]
    constructor
    · rintro ⟨resolved, ⟨member, hmember, hresolve⟩, htype⟩
      exact ⟨member, hmember, resolved, hresolve, htype⟩
    · rintro ⟨member, hmember, resolved, hresolve, htype⟩
      exact ⟨resolved, ⟨member, hmember, hresolve⟩, htype⟩
  simp only [ResolvedType.kind?_unite_eq_some, hmem, Supports]

end TypeHint

end DsnBinding
