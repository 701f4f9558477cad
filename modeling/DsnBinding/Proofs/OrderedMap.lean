import DsnBinding.OrderedMap
import DsnBinding.Proofs.Distinct

/-!
Keys and values of ordered maps. A key is present exactly if it is looked up with success, writing a
present key changes no other, and a list of pairs without repeated keys is a map as it stands. The map
of any list of pairs has each key in the place of its first pair, with the value of its last one, so
that writing the pairs of a list comes to the same as writing those of its map.
-/
namespace DsnBinding.OrderedMap

variable {κ α : Type} [DecidableEq κ]

theorem isSome_lookup {k : κ} {entries : List (κ × α)} :
    (entries.lookup k).isSome = true ↔ k ∈ entries.map Prod.fst := by
  induction entries with
  | nil => simp
  | cons entry rest ih =>
    obtain ⟨k', v⟩ := entry
    by_cases h : k' = k
    · simp [h]
    · simp [lookup_cons_eq_if, h, ih, Ne.symm h]

theorem contains_iff {m : OrderedMap κ α} {k : κ} : m.contains k = true ↔ k ∈ m.keys :=
  isSome_lookup

theorem keys_insertEntry {k : κ} {entries : List (κ × α)} (v : α) (h : k ∈ entries.map Prod.fst) :
    (insertEntry k v entries).map Prod.fst = entries.map Prod.fst := by
  induction entries with
  | nil => cases h
  | cons entry rest ih =>
    obtain ⟨k', v'⟩ := entry
    by_cases hk : k' = k
    · simp [insertEntry, hk]
    · have hrest : k ∈ rest.map Prod.fst := (List.mem_cons.1 h).resolve_left (Ne.symm hk)
      simp [insertEntry, hk, ih hrest]

theorem keys_insert {m : OrderedMap κ α} {k : κ} (v : α) (h : k ∈ m.keys) :
    (m.insert k v).keys = m.keys :=
  keys_insertEntry v h

theorem insertEntry_of_not_mem {k : κ} {entries : List (κ × α)} (v : α)
    (h : k ∉ entries.map Prod.fst) : insertEntry k v entries = entries ++ [(k, v)] := by
  induction entries with
  | nil => rfl
  | cons entry rest ih =>
    obtain ⟨k', v'⟩ := entry
    have hk : k' ≠ k := fun e => h (e ▸ List.mem_cons_self)
    have hrest : k ∉ rest.map Prod.fst := fun hm => h (List.mem_cons_of_mem _ hm)
    simp [insertEntry, hk, ih hrest]

theorem nodup_insert {m : OrderedMap κ α} (h : m.keys.Nodup) (k : κ) (v : α) :
    (m.insert k v).keys.Nodup := by
  by_cases hk : k ∈ m.keys
  · rwa [keys_insert v hk]
  · have hinsert : m.insert k v = ⟨m.entries ++ [(k, v)]⟩ :=
      congrArg OrderedMap.mk (insertEntry_of_not_mem v hk)
    simp only [hinsert, keys, List.map_append, List.map_cons, List.map_nil]
    refine List.nodup_append.2 ⟨h, by simp, ?_⟩
    intro k' hk' last hlast heq
    rw [List.mem_singleton] at hlast
    exact hk (hlast ▸ heq ▸ hk')

theorem insertAll_of_nodup (m : OrderedMap κ α) {pairs : List (κ × α)}
    (h : (m.keys ++ pairs.map Prod.fst).Nodup) : m.insertAll pairs = ⟨m.entries ++ pairs⟩ := by
  induction pairs generalizing m with
  | nil => simp [insertAll]
  | cons pair rest ih =>
    obtain ⟨k, v⟩ := pair
    have hk : k ∉ m.entries.map Prod.fst := by
      intro hm
      exact (List.nodup_append.1 h).2.2 k hm k List.mem_cons_self rfl
    have hinsert : m.insert k v = ⟨m.entries ++ [(k, v)]⟩ :=
      congrArg OrderedMap.mk (insertEntry_of_not_mem v hk)
    have hrest : ((m.insert k v).keys ++ rest.map Prod.fst).Nodup := by
      rw [hinsert]
      simpa [keys] using h
    have hstep : m.insertAll ((k, v) :: rest) = (m.insert k v).insertAll rest := rfl
    rw [hstep, ih _ hrest, hinsert, List.append_assoc, List.singleton_append]

/-- Pairs without a repeated key are the entries of their map. -/
theorem ofList_of_nodup {pairs : List (κ × α)} (h : (pairs.map Prod.fst).Nodup) :
    ofList pairs = ⟨pairs⟩ :=
  insertAll_of_nodup empty (by simpa [keys, empty] using h)

theorem get?_insertIfNew (m : OrderedMap κ α) (k k' : κ) (v : α) :
    (m.insertIfNew k v).get? k' = (m.get? k').or (if k = k' then some v else none) := by
  unfold insertIfNew contains
  cases hk : m.get? k with
  | none =>
    by_cases h : k = k'
    · subst h
      simp [get?_insert, hk]
    · simp [get?_insert, h]
  | some u =>
    by_cases h : k = k'
    · subst h
      simp [hk]
    · simp [h]

theorem get?_foldl_insertIfNew (m : OrderedMap κ α) (names : List κ) (k : κ) (v : α) :
    (names.foldl (fun m name => m.insertIfNew name v) m).get? k =
      (m.get? k).or (if k ∈ names then some v else none) := by
  induction names generalizing m with
  | nil => simp
  | cons name rest ih =>
    rw [List.foldl_cons, ih, get?_insertIfNew, Option.or_assoc]
    by_cases h : name = k
    · subst h
      simp
    · simp [h, Ne.symm h]

theorem lookup_eq_none {k : κ} {entries : List (κ × α)} :
    entries.lookup k = none ↔ k ∉ entries.map Prod.fst := by
  rw [← Option.not_isSome_iff_eq_none, isSome_lookup]

theorem eq_of_lookup_eq {entries entries' : List (κ × α)}
    (hkeys : entries.map Prod.fst = entries'.map Prod.fst) (hnodup : (entries.map Prod.fst).Nodup)
    (h : ∀ k, entries.lookup k = entries'.lookup k) : entries = entries' := by
  induction entries generalizing entries' with
  | nil => exact (List.map_eq_nil_iff.1 hkeys.symm).symm
  | cons entry rest ih =>
    obtain ⟨k, v⟩ := entry
    cases entries' with
    | nil => cases hkeys
    | cons entry' rest' =>
      obtain ⟨k', v'⟩ := entry'
      obtain ⟨rfl, hrest⟩ := List.cons.inj hkeys
      obtain ⟨hk, hnodup⟩ := List.nodup_cons.1 hnodup
      have hv : v = v' := by simpa using h k
      have hlater : rest = rest' := by
        refine ih hrest hnodup ?_
        intro k'
        by_cases hkk : k = k'
        · subst hkk
          rw [lookup_eq_none.2 hk, lookup_eq_none.2 (hrest ▸ hk)]
        · simpa [lookup_cons_eq_if, hkk] using h k'
      rw [hv, hlater]

/-- Maps with the same keys in the same order are equal if they give each key the same value. -/
theorem eq_of_get?_eq {m m' : OrderedMap κ α} (hkeys : m.keys = m'.keys) (hnodup : m.keys.Nodup)
    (h : ∀ k, m.get? k = m'.get? k) : m = m' :=
  congrArg OrderedMap.mk (eq_of_lookup_eq hkeys hnodup h)

theorem keys_insertAll {m : OrderedMap κ α} {pairs : List (κ × α)}
    (h : ∀ pair ∈ pairs, pair.1 ∈ m.keys) : (m.insertAll pairs).keys = m.keys := by
  induction pairs generalizing m with
  | nil => rfl
  | cons pair rest ih =>
    have hfirst := keys_insert pair.2 (h pair List.mem_cons_self)
    have hstep : m.insertAll (pair :: rest) = (m.insert pair.1 pair.2).insertAll rest := rfl
    rw [hstep, ih, hfirst]
    intro later hlater
    rw [hfirst]
    exact h later (List.mem_cons_of_mem pair hlater)

/-- A key has the last value that it is given; if it is given none, it keeps its own. -/
theorem get?_insertAll (m : OrderedMap κ α) (pairs : List (κ × α)) (k : κ) :
    (m.insertAll pairs).get? k =
      (((pairs.filter (·.1 = k)).getLast?).map Prod.snd).or (m.get? k) := by
  induction pairs generalizing m with
  | nil => rfl
  | cons pair rest ih =>
    have hstep : m.insertAll (pair :: rest) = (m.insert pair.1 pair.2).insertAll rest := rfl
    rw [hstep, ih, get?_insert]
    by_cases h : pair.1 = k
    · rw [if_pos h, List.filter_cons_of_pos (by simpa using h), List.getLast?_cons]
      cases (rest.filter (·.1 = k)).getLast? <;> rfl
    · rw [if_neg h, List.filter_cons_of_neg (by simpa using h)]

theorem keys_insert_eq_adjoin [BEq κ] [LawfulBEq κ] (m : OrderedMap κ α) (k : κ) (v : α) :
    (m.insert k v).keys = adjoin m.keys [k] := by
  rw [adjoin_singleton]
  split
  · rename_i hk
    exact keys_insert v (List.contains_iff_mem.1 hk)
  · rename_i hk
    have hnew : k ∉ m.entries.map Prod.fst := fun hm => hk (List.contains_iff_mem.2 hm)
    simp [insert, keys, insertEntry_of_not_mem v hnew]

theorem keys_insertIfNew_eq_adjoin [BEq κ] [LawfulBEq κ] (m : OrderedMap κ α) (k : κ) (v : α) :
    (m.insertIfNew k v).keys = adjoin m.keys [k] := by
  unfold insertIfNew
  split
  · rename_i hk
    rw [adjoin_singleton, if_pos (List.contains_iff_mem.2 (contains_iff.1 hk))]
  · exact keys_insert_eq_adjoin m k v

theorem keys_foldl_insertIfNew [BEq κ] [LawfulBEq κ] (m : OrderedMap κ α) (names : List κ) (v : α) :
    (names.foldl (fun m name => m.insertIfNew name v) m).keys = adjoin m.keys names := by
  induction names generalizing m with
  | nil => exact (adjoin_nil m.keys).symm
  | cons name rest ih => rw [List.foldl_cons, ih, keys_insertIfNew_eq_adjoin, ← adjoin_cons]

theorem keys_insertAll_eq [BEq κ] [LawfulBEq κ] (m : OrderedMap κ α) (pairs : List (κ × α)) :
    (m.insertAll pairs).keys = adjoin m.keys (pairs.map Prod.fst) := by
  induction pairs generalizing m with
  | nil => exact (adjoin_nil m.keys).symm
  | cons pair rest ih =>
    have hstep : m.insertAll (pair :: rest) = (m.insert pair.1 pair.2).insertAll rest := rfl
    rw [hstep, ih, keys_insert_eq_adjoin, ← adjoin_cons, List.map_cons]

/-- Each key keeps the place of its first pair. -/
theorem keys_ofList [BEq κ] [LawfulBEq κ] (pairs : List (κ × α)) :
    (ofList pairs).keys = (pairs.map Prod.fst).eraseDups :=
  (keys_insertAll_eq empty pairs).trans (nil_adjoin _)

theorem nodup_insertAll {m : OrderedMap κ α} (h : m.keys.Nodup) (pairs : List (κ × α)) :
    (m.insertAll pairs).keys.Nodup := by
  induction pairs generalizing m with
  | nil => exact h
  | cons pair rest ih => exact ih (nodup_insert h pair.1 pair.2)

theorem nodup_ofList (pairs : List (κ × α)) : (ofList pairs).keys.Nodup :=
  nodup_insertAll (m := empty) List.nodup_nil pairs

/-- Each key has the value of its last pair. -/
theorem get?_ofList (pairs : List (κ × α)) (k : κ) :
    (ofList pairs).get? k = ((pairs.filter (·.1 = k)).getLast?).map Prod.snd := by
  rw [ofList, get?_insertAll, get?_empty, Option.or_none]

theorem mem_insertEntry {k : κ} {v : α} {entries : List (κ × α)} {pair : κ × α}
    (h : pair ∈ insertEntry k v entries) : pair = (k, v) ∨ pair ∈ entries := by
  induction entries with
  | nil => exact Or.inl (List.mem_singleton.1 h)
  | cons entry rest ih =>
    obtain ⟨k', v'⟩ := entry
    unfold insertEntry at h
    split at h
    · exact (List.mem_cons.1 h).imp_right (List.mem_cons_of_mem _)
    · rcases List.mem_cons.1 h with rfl | h
      · exact Or.inr List.mem_cons_self
      · exact (ih h).imp_right (List.mem_cons_of_mem _)

theorem mem_entries_insertAll {m : OrderedMap κ α} {pairs : List (κ × α)} {pair : κ × α}
    (h : pair ∈ (m.insertAll pairs).entries) : pair ∈ m.entries ∨ pair ∈ pairs := by
  induction pairs generalizing m with
  | nil => exact Or.inl h
  | cons first rest ih =>
    rcases ih (m := m.insert first.1 first.2) h with h | h
    · rcases mem_insertEntry h with rfl | h
      · exact Or.inr List.mem_cons_self
      · exact Or.inl h
    · exact Or.inr (List.mem_cons_of_mem first h)

theorem mem_entries_ofList {pairs : List (κ × α)} {pair : κ × α}
    (h : pair ∈ (ofList pairs).entries) : pair ∈ pairs :=
  (mem_entries_insertAll h).resolve_left List.not_mem_nil

theorem insertAll_append (m : OrderedMap κ α) (pairs pairs' : List (κ × α)) :
    m.insertAll (pairs ++ pairs') = (m.insertAll pairs).insertAll pairs' := by
  simp only [insertAll, List.foldl_append]

/-- To write a map over another is to prefer its values. -/
theorem get?_insertAll_entries (m : OrderedMap κ α) {m' : OrderedMap κ α} (h : m'.keys.Nodup)
    (k : κ) : (m.insertAll m'.entries).get? k = (m'.get? k).or (m.get? k) := by
  have hm' : ofList m'.entries = m' := ofList_of_nodup h
  rw [get?_insertAll, ← get?_ofList, hm']

theorem keys_insertAll_entries (m : OrderedMap κ α) {m' : OrderedMap κ α} (h : m'.keys.Nodup) :
    (m.insertAll m'.entries).keys = m.keys ++ m'.keys.filter (!m.contains ·) := by
  have hkeys : (m.insertAll m'.entries).keys = adjoin m.keys m'.keys :=
    keys_insertAll_eq m m'.entries
  have hcontains : ∀ k, m.keys.contains k = m.contains k := by
    intro k
    rw [Bool.eq_iff_iff, List.contains_iff_mem, contains_iff]
  rw [hkeys, adjoin_of_nodup h]
  simp only [List.removeAll, List.elem_eq_contains, hcontains]

/-- Pairs can be made a map before they are written. -/
theorem insertAll_ofList {m : OrderedMap κ α} (h : m.keys.Nodup) (pairs : List (κ × α)) :
    m.insertAll (ofList pairs).entries = m.insertAll pairs := by
  have hkeys : (m.insertAll (ofList pairs).entries).keys = (m.insertAll pairs).keys := by
    have hofList : (ofList pairs).entries.map Prod.fst = (pairs.map Prod.fst).eraseDups :=
      keys_ofList pairs
    rw [keys_insertAll_eq, keys_insertAll_eq, hofList, adjoin_eraseDups]
  refine eq_of_get?_eq hkeys (nodup_insertAll h _) ?_
  intro k
  rw [get?_insertAll_entries m (nodup_ofList pairs), get?_ofList, get?_insertAll]

end DsnBinding.OrderedMap
