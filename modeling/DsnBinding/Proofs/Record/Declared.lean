import DsnBinding.Proofs.OrderedMap
import DsnBinding.Record.Reading

/-!
Records of a declared type. They hold a value under each declared name and under no other, and
writing a declared name replaces its value and leaves everything else as it is. If the type is not
frozen, no declared name refuses a value.
-/
namespace DsnBinding

/-- A record of a declared type. -/
structure Record.IsOf (d : Declaration) (r : Record) : Prop where
  typeName : r.typeName = d.name
  kind : r.kind = d.kind
  keys : r.attributes.keys = d.names

theorem RecordType.isOf_fresh {d : Declaration} (h : d.names.Nodup) :
    (RecordType.declared d).fresh.IsOf d := by
  have hkeys : (d.attributes.map fun a => (a.name, a.initial)).map Prod.fst = d.names := by
    rw [List.map_map]
    rfl
  refine ⟨rfl, rfl, ?_⟩
  rw [fresh, OrderedMap.ofList_of_nodup (hkeys ▸ h)]
  exact hkeys

namespace Record

theorem get?_set (r : Record) (name name' : Text) (v : Value) :
    (r.set name v).get? name' = if name = name' then some v else r.get? name' :=
  r.attributes.get?_insert name name' v

variable {d : Declaration} {r : Record} {name : Text}

theorem IsOf.exists_get? (h : r.IsOf d) (hname : name ∈ d.names) : ∃ v, r.get? name = some v := by
  refine Option.isSome_iff_exists.1 (OrderedMap.contains_iff.2 ?_)
  rw [h.keys]
  exact hname

theorem IsOf.set (h : r.IsOf d) (hname : name ∈ d.names) (v : Value) : (r.set name v).IsOf d := by
  refine ⟨h.typeName, h.kind, ?_⟩
  rw [← h.keys] at hname ⊢
  exact OrderedMap.keys_insert v hname

/-- A declared name of a type that is not frozen takes any value. -/
theorem IsOf.assign_eq (h : r.IsOf d) (hfrozen : d.frozen = false) (hname : name ∈ d.names)
    (v : Value) : r.assign name v = .ok (r.set name v) := by
  have hkind : r.kind = .declared false d.template.isSome := by
    rw [h.kind, Declaration.kind, hfrozen]
  have hcontains : r.attributes.contains name = true := by
    rw [OrderedMap.contains_iff, h.keys]
    exact hname
  simp [assign, write, hkind, hcontains]

end Record

end DsnBinding
