/-!
Maps that remember the order in which their keys arrived. Writing a present key replaces its value
and keeps its place; a new key goes to the end.
-/
namespace DsnBinding

structure OrderedMap (κ α : Type) where
  entries : List (κ × α)
  deriving Repr, DecidableEq

namespace OrderedMap

variable {κ α β : Type}

def empty : OrderedMap κ α := ⟨[]⟩

instance : Inhabited (OrderedMap κ α) := ⟨empty⟩

def keys (m : OrderedMap κ α) : List κ := m.entries.map Prod.fst

def size (m : OrderedMap κ α) : Nat := m.entries.length

variable [DecidableEq κ]

def insertEntry (k : κ) (v : α) : List (κ × α) → List (κ × α)
  | [] => [(k, v)]
  | (k', v') :: rest =>
    if k' = k then (k, v) :: rest else (k', v') :: insertEntry k v rest

def get? (m : OrderedMap κ α) (k : κ) : Option α := m.entries.lookup k

def contains (m : OrderedMap κ α) (k : κ) : Bool := (m.get? k).isSome

def insert (m : OrderedMap κ α) (k : κ) (v : α) : OrderedMap κ α := ⟨insertEntry k v m.entries⟩

/-- A present key keeps its value. -/
def insertIfNew (m : OrderedMap κ α) (k : κ) (v : α) : OrderedMap κ α :=
  if m.contains k then m else m.insert k v

def insertAll (m : OrderedMap κ α) (pairs : List (κ × α)) : OrderedMap κ α :=
  pairs.foldl (fun m (k, v) => m.insert k v) m

def ofList (pairs : List (κ × α)) : OrderedMap κ α := empty.insertAll pairs

@[simp]
theorem get?_empty (k : κ) : (empty : OrderedMap κ α).get? k = none := rfl

theorem lookup_cons_eq_if (k k' : κ) (v : α) (rest : List (κ × α)) :
    ((k', v) :: rest).lookup k = if k' = k then some v else rest.lookup k := by
  by_cases h : k' = k
  · simp [h]
  · have hne : (k == k') = false := beq_false_of_ne (Ne.symm h)
    simp [List.lookup_cons, hne, h]

theorem lookup_insertEntry (k k' : κ) (v : α) (entries : List (κ × α)) :
    (insertEntry k v entries).lookup k' = if k = k' then some v else entries.lookup k' := by
  induction entries with
  | nil => exact lookup_cons_eq_if k' k v []
  | cons entry rest ih =>
    obtain ⟨k₀, v₀⟩ := entry
    by_cases h : k₀ = k
    · subst h
      by_cases h' : k₀ = k' <;> simp [insertEntry, lookup_cons_eq_if, h']
    · by_cases h' : k₀ = k'
      · subst h'
        simp [insertEntry, h, Ne.symm h]
      · simp [insertEntry, lookup_cons_eq_if, h, h', ih]

theorem get?_insert (m : OrderedMap κ α) (k k' : κ) (v : α) :
    (m.insert k v).get? k' = if k = k' then some v else m.get? k' :=
  lookup_insertEntry k k' v m.entries

end OrderedMap

end DsnBinding
