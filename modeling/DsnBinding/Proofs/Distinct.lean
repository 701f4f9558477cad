import Mathlib.Data.List.Induction

/-!
Lists without repetition: of several equal members the first is kept. Members can be put behind those
that are kept already, some at a time or all at once; and of members that are distinct already only
those go that are kept.
-/
namespace DsnBinding

variable {α : Type} [BEq α]

/-- Put members behind those that are kept, each of them once. -/
def adjoin (kept members : List α) : List α := kept ++ (members.removeAll kept).eraseDups

@[simp]
theorem adjoin_nil (kept : List α) : adjoin kept [] = kept := List.append_nil kept

theorem nil_adjoin (members : List α) : adjoin [] members = members.eraseDups := by
  simp [adjoin]

variable [LawfulBEq α]

theorem eraseDups_concat (members : List α) (a : α) :
    (members ++ [a]).eraseDups =
      if members.contains a then members.eraseDups else members.eraseDups ++ [a] := by
  rw [List.eraseDups_append]
  split
  · rename_i h
    simp [List.removeAll, List.contains_iff_mem.1 h]
  · rename_i h
    have hnew : a ∉ members := fun hmem => h (List.contains_iff_mem.2 hmem)
    simp [List.removeAll, hnew, List.eraseDups_cons]

theorem nodup_eraseDups (members : List α) : members.eraseDups.Nodup := by
  induction members using List.reverseRecOn with
  | nil => exact List.nodup_nil
  | append_singleton members a ih =>
    rw [eraseDups_concat]
    split
    · exact ih
    · rename_i h
      refine List.nodup_append.2 ⟨ih, by simp, ?_⟩
      intro b hb last hlast heq
      obtain rfl := List.mem_singleton.1 hlast
      exact h (List.contains_iff_mem.2 (heq ▸ List.mem_eraseDups.1 hb))

theorem eraseDups_filter (p : α → Bool) (members : List α) :
    (members.filter p).eraseDups = members.eraseDups.filter p := by
  induction members using List.reverseRecOn with
  | nil => rfl
  | append_singleton members a ih =>
    rw [List.filter_append, eraseDups_concat]
    cases ha : p a with
    | false => split <;> simp [ha, ih]
    | true =>
      rw [List.filter_cons_of_pos ha, List.filter_nil, eraseDups_concat, ih]
      by_cases hmem : a ∈ members <;> simp [hmem, ha]

theorem eraseDups_of_nodup {members : List α} (h : members.Nodup) : members.eraseDups = members := by
  induction members with
  | nil => rfl
  | cons member members ih =>
    obtain ⟨hnew, hnodup⟩ := List.nodup_cons.1 h
    have hothers : members.filter (fun other => !other == member) = members := by
      rw [List.filter_eq_self]
      intro other hother
      have hne : other ≠ member := fun e => hnew (e ▸ hother)
      simpa using hne
    rw [List.eraseDups_cons, hothers, ih hnodup]

theorem adjoin_singleton (kept : List α) (a : α) :
    adjoin kept [a] = if kept.contains a then kept else kept ++ [a] := by
  by_cases h : a ∈ kept <;> simp [adjoin, List.removeAll, List.eraseDups_cons, h]

theorem adjoin_append (kept a b : List α) : adjoin kept (a ++ b) = adjoin (adjoin kept a) b := by
  have hrest : (b.removeAll kept).removeAll (a.removeAll kept) =
      b.removeAll (kept ++ (a.removeAll kept).eraseDups) := by
    unfold List.removeAll
    rw [List.filter_filter]
    apply List.filter_congr
    intro member _
    by_cases hkept : member ∈ kept <;> simp [hkept]
  have hsplit : (a ++ b).removeAll kept = a.removeAll kept ++ b.removeAll kept :=
    List.filter_append _ _
  rw [adjoin, hsplit, List.eraseDups_append, hrest, ← List.append_assoc]
  rfl

theorem adjoin_cons (kept : List α) (a : α) (members : List α) :
    adjoin kept (a :: members) = adjoin (adjoin kept [a]) members :=
  adjoin_append kept [a] members

/-- Members can be made distinct before they are put behind others. -/
theorem adjoin_eraseDups (kept members : List α) : adjoin kept members.eraseDups = adjoin kept members := by
  have hfilter : members.eraseDups.removeAll kept = (members.removeAll kept).eraseDups :=
    (eraseDups_filter _ members).symm
  rw [adjoin, hfilter, eraseDups_of_nodup (nodup_eraseDups _), adjoin]

theorem adjoin_of_nodup {members : List α} (h : members.Nodup) (kept : List α) :
    adjoin kept members = kept ++ members.removeAll kept := by
  have hdistinct : (members.removeAll kept).Nodup := h.filter _
  rw [adjoin, eraseDups_of_nodup hdistinct]

end DsnBinding
