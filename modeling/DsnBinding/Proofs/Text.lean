import DsnBinding.Text

/-!
How texts are cut. In front of a separator nothing is lost and nothing is taken for another one, and
no piece of a text holds a separator.
-/
namespace DsnBinding.Text

variable {sep : Char}

/-- Nothing in the text is taken for the separator. -/
theorem ne_of_not_mem {t : Text} (h : sep ∉ t) : ∀ c ∈ t, (c != sep) = true := by
  intro c hc
  have hne : c ≠ sep := fun e => h (e ▸ hc)
  simpa using hne

/-- What is marked in a text that is put together stands in one of its parts. -/
theorem append_eq_append_cons {a t u v : Text} {c : Char} (h : a ++ t = u ++ c :: v) :
    (∃ w, u = a ++ w ∧ t = w ++ c :: v) ∨ ∃ w, a = u ++ c :: w ∧ v = w ++ t := by
  rcases List.append_eq_append_iff.1 h with ⟨w, hu, ht⟩ | ⟨w, ha, hv⟩
  · exact Or.inl ⟨w, hu, ht⟩
  · cases w with
    | nil => exact Or.inl ⟨[], by simpa using ha.symm, by simpa using hv.symm⟩
    | cons d w =>
      obtain ⟨rfl, rfl⟩ := List.cons.inj hv
      exact Or.inr ⟨w, ha, rfl⟩

theorem before_append {t : Text} (h : sep ∉ t) (rest : Text) :
    before sep (t ++ rest) = t ++ before sep rest :=
  List.takeWhile_append_of_pos (ne_of_not_mem h)

theorem after_append {t : Text} (h : sep ∉ t) (rest : Text) :
    after sep (t ++ rest) = after sep rest :=
  congrArg (List.drop 1) (List.dropWhile_append_of_pos (ne_of_not_mem h))

theorem before_append_cons {t : Text} (h : sep ∉ t) (rest : Text) :
    before sep (t ++ sep :: rest) = t := by
  rw [before_append h]
  simp [before]

theorem after_append_cons {t : Text} (h : sep ∉ t) (rest : Text) :
    after sep (t ++ sep :: rest) = rest := by
  rw [after_append h]
  simp [after]

theorem mem_of_mem_before {c : Char} {t : Text} (h : c ∈ before sep t) : c ∈ t :=
  (List.takeWhile_sublist _).subset h

theorem mem_of_mem_after {c : Char} {t : Text} (h : c ∈ after sep t) : c ∈ t :=
  (List.dropWhile_sublist _).subset (List.mem_of_mem_drop h)

/-- A piece holds no separator, and nothing that the text does not hold. -/
theorem mem_splitOn {t piece : Text} (h : piece ∈ t.splitOn sep) :
    sep ∉ piece ∧ ∀ c ∈ piece, c ∈ t := by
  induction t generalizing piece with
  | nil =>
    obtain rfl := List.mem_singleton.1 (List.splitOn_nil sep ▸ h)
    exact ⟨List.not_mem_nil, nofun⟩
  | cons c t ih =>
    have hmore : ∀ {piece}, piece ∈ t.splitOn sep → sep ∉ piece ∧ ∀ d ∈ piece, d ∈ c :: t := by
      intro piece hpiece
      obtain ⟨hsep, hmem⟩ := ih hpiece
      exact ⟨hsep, fun d hd => List.mem_cons_of_mem c (hmem d hd)⟩
    rw [List.splitOn_cons_eq_if_modifyHead] at h
    by_cases hc : c = sep
    · rw [if_pos (beq_iff_eq.2 hc)] at h
      rcases List.mem_cons.1 h with rfl | h
      · exact ⟨List.not_mem_nil, nofun⟩
      · exact hmore h
    · rw [if_neg fun heq => hc (beq_iff_eq.1 heq)] at h
      obtain ⟨first, others, hpieces⟩ := List.exists_cons_of_ne_nil (List.splitOn_ne_nil sep t)
      rw [hpieces] at h hmore
      rcases List.mem_cons.1 h with rfl | h
      · obtain ⟨hsep, hmem⟩ := hmore List.mem_cons_self
        refine ⟨List.not_mem_cons_of_ne_of_not_mem (Ne.symm hc) hsep, ?_⟩
        intro d hd
        rcases List.mem_cons.1 hd with rfl | hd
        · exact List.mem_cons_self
        · exact hmem d hd
      · exact hmore (List.mem_cons_of_mem first h)

theorem exists_mem_splitOn {c : Char} (hc : c ≠ sep) {t : Text} (h : c ∈ t) :
    ∃ piece ∈ t.splitOn sep, c ∈ piece := by
  induction t with
  | nil => cases h
  | cons d t ih =>
    rw [List.splitOn_cons_eq_if_modifyHead]
    by_cases hd : d = sep
    · have hmem : c ∈ t := (List.mem_cons.1 h).resolve_left fun e => hc (e.trans hd)
      obtain ⟨piece, hpiece, hmem⟩ := ih hmem
      exact ⟨piece, by simp [hd, hpiece], hmem⟩
    · obtain ⟨first, others, hpieces⟩ := List.exists_cons_of_ne_nil (List.splitOn_ne_nil sep t)
      rw [if_neg fun heq => hd (beq_iff_eq.1 heq), hpieces, List.modifyHead_cons]
      rw [hpieces] at ih
      rcases List.mem_cons.1 h with rfl | h
      · exact ⟨c :: first, List.mem_cons_self, List.mem_cons_self⟩
      · obtain ⟨piece, hpiece, hmem⟩ := ih h
        rcases List.mem_cons.1 hpiece with rfl | hpiece
        · exact ⟨d :: piece, List.mem_cons_self, List.mem_cons_of_mem d hmem⟩
        · exact ⟨piece, List.mem_cons_of_mem _ hpiece, hmem⟩

end DsnBinding.Text
