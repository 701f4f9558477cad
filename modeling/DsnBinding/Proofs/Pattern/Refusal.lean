import DsnBinding.Proofs.Pattern.Stops
import DsnBinding.Proofs.Template.Cause

/-!
Refused templates. An error carries the template, and what it says is found at its offset: a template
that cannot be read is refused for the first thing that is wrong with it, and one that can be read
for a capture that another capture can follow, at the marker of the capture.
-/
namespace DsnBinding

namespace Template

/-- A capture stands where its marker and its name are in the text. -/
theorem exists_marker {name : Text} {place offset skip : Nat} {t : Text}
    (h : .capture name place ∈ scanFrom offset skip t) :
    ∃ before behind, t = before ++ ('$' :: name ++ behind) ∧ place = offset + before.length ∧
      isIdentifier name = true ∧ EndsBefore isNameChar behind := by
  have hlater : ∀ {offset : Nat} {t : Text} (c : Char),
      (∃ before behind, t = before ++ ('$' :: name ++ behind) ∧ place = offset + 1 + before.length ∧
        isIdentifier name = true ∧ EndsBefore isNameChar behind) →
      ∃ before behind, c :: t = before ++ ('$' :: name ++ behind) ∧
        place = offset + before.length ∧ isIdentifier name = true ∧
        EndsBefore isNameChar behind := by
    intro offset t c hsome
    obtain ⟨before, behind, rfl, rfl, hname, hend⟩ := hsome
    refine ⟨c :: before, behind, rfl, ?_, hname, hend⟩
    rw [List.length_cons]
    omega
  fun_induction scanFrom offset skip t with
  | case1 => cases h
  | case2 offset skip c t ih => exact hlater c (ih h)
  | case3 offset t found token ih =>
    rcases List.mem_cons.1 h with htoken | h
    · unfold token at htoken
      split at htoken
      · cases htoken
      · rename_i hsome
        obtain ⟨rfl, rfl⟩ := Token.capture.inj htoken
        rcases leadingName_cases t with hnone | ⟨hname, behind, heq, hend⟩
        · simp [found, hnone] at hsome
        · exact ⟨[], behind, congrArg _ heq, rfl, hname, hend⟩
    · exact hlater '$' (ih h)
  | case4 offset t _ ih =>
    rcases List.mem_cons.1 h with htoken | h
    · rcases choiceToken_cases offset t with ⟨_, heq⟩ | ⟨_, heq⟩ <;> rw [heq] at htoken <;>
        cases htoken
    · exact hlater '(' (ih h)
  | case5 offset t _ _ ih | case6 offset t _ _ _ ih | case7 offset t _ _ _ _ ih
  | case8 offset t _ _ _ _ _ ih | case9 offset c t _ _ _ _ _ _ run ih =>
    rcases List.mem_cons.1 h with htoken | h
    · cases htoken
    · exact hlater _ (ih h)

end Template

theorem Segments.exists_capture_of_withStops {segments : Segments} {next : Heads}
    {fault : Template.Fault} (h : withStops next segments = .error fault) :
    ∃ name stops, .capture name stops fault.offset ∈ leaves segments ∧
      fault.complaint = .adjacentCaptures name := by
  induction segments using nestedInduction generalizing next with
  | nil => cases h
  | cons segment rest hinner ih =>
    unfold withStops at h
    split at h
    · rename_i fault' hsegment
      obtain rfl := Except.error.inj h
      cases segment with
      | capture name stops offset =>
        unfold Segment.withStops at hsegment
        split at hsegment
        · obtain rfl := Except.error.inj hsegment
          exact ⟨name, stops, List.mem_append_left _ (List.mem_singleton.2 rfl), rfl⟩
        · cases hsegment
      | group inner =>
        obtain ⟨name, stops, hmem, hcomplaint⟩ := hinner inner rfl (map_eq_error.1 hsegment)
        exact ⟨name, stops, List.mem_append_left _ hmem, hcomplaint⟩
      | literal _ | choice _ | bare => cases hsegment
    · obtain ⟨name, stops, hmem, hcomplaint⟩ := ih (map_eq_error.1 h)
      exact ⟨name, stops, List.mem_append_right _ hmem, hcomplaint⟩

namespace Pattern

open Template

/-- A template that can be read is refused at the marker of a capture. -/
theorem exists_marker_of_withStops {template : Text} {segments : Segments} {fault : Fault}
    (houtline : outline template = .ok segments)
    (h : Segments.withStops Heads.nothing segments = .error fault) :
    ∃ before behind name, template = before ++ ('$' :: name ++ behind) ∧
      fault = ⟨before.length, .adjacentCaptures name⟩ ∧ isIdentifier name = true ∧
      EndsBefore isNameChar behind := by
  obtain ⟨name, stops, hmem, hcomplaint⟩ := Segments.exists_capture_of_withStops h
  rw [leaves_outline houtline] at hmem
  obtain ⟨token, htoken, hsegment⟩ := List.mem_filterMap.1 hmem
  cases token with
  | capture name' place =>
    obtain ⟨rfl, -, rfl⟩ := Segment.capture.inj (Option.some.inj hsegment)
    obtain ⟨before, behind, heq, hplace, hname, hend⟩ := exists_marker htoken
    refine ⟨before, behind, name', heq, ?_, hname, hend⟩
    rw [← hcomplaint, ← Nat.zero_add before.length, ← hplace]
  | literal _ | choice _ => cases Option.some.inj hsegment
  | opening _ | closing _ | query _ _ | faulty _ => cases hsegment

theorem points_at_cause {before behind : Text} {complaint : Complaint}
    (h : Cause complaint.code (Error.value ⟨behind, ⟨0, complaint⟩⟩) before behind) :
    let e : Template.Error := ⟨before ++ behind, ⟨before.length, complaint⟩⟩
    e.offset < (before ++ behind).length ∧ Cause e.code e.value before behind := by
  intro e
  have hpos : 0 < behind.length := List.length_pos_iff.2 h.ne_nil
  refine ⟨?_, ?_⟩
  · show before.length < _
    rw [List.length_append]
    omega
  · rw [← Error.value_append] at h
    exact h

/-- An error of a template carries the template and points at its cause: the template up to its
offset is the beginning of a template that can be read, and there is something behind it, which is
what the code and the value of the error say. -/
theorem compile_error_cause {template : Text} {e : Template.Error}
    (h : compile template = .error e) :
    e.template = template ∧ e.offset < template.length ∧
      ∃ before behind, template = before ++ behind ∧ before.length = e.offset ∧
        IsBeginning before ∧ Cause e.code e.value before behind := by
  cases houtline : outline template with
  | error fault =>
    obtain rfl : ⟨template, fault⟩ = e := by simpa [compile, segmentsOf, houtline] using h
    obtain ⟨before, behind, rfl, hoffset, hbegins, hcause⟩ := exists_cause_of_outline houtline
    obtain ⟨_, complaint⟩ := fault
    obtain rfl : _ = before.length := hoffset
    obtain ⟨hlt, hpoints⟩ := points_at_cause hcause
    exact ⟨rfl, hlt, before, behind, rfl, rfl, hbegins, hpoints⟩
  | ok segments =>
    rw [compile_eq houtline] at h
    cases hstops : Segments.withStops Heads.nothing segments with
    | ok segments' => simp [hstops] at h
    | error fault =>
      obtain rfl : ⟨template, fault⟩ = e := by simpa [hstops] using h
      obtain ⟨before, behind, name, rfl, rfl, hname, hend⟩ :=
        exists_marker_of_withStops houtline hstops
      have hformed : IsWellFormed (before ++ ('$' :: name ++ behind)) :=
        isWellFormed_iff.2 ⟨segments, houtline⟩
      obtain ⟨hlt, hpoints⟩ := @points_at_cause before ('$' :: name ++ behind)
        (.adjacentCaptures name) (.adjacentCaptures hname hend hformed)
      exact ⟨rfl, hlt, before, _, rfl, rfl, ⟨_, hformed⟩, hpoints⟩

/-- A group that is not closed, with a closed one inside it. -/
theorem compile_error_cause_open_group :
    let template := "a[b[c]$x".toList
    compile template = .error ⟨template, ⟨1, .unclosedGroup⟩⟩ ∧
      Cause "unterminated_group" "[b[c]$x".toList ['a'] "[b[c]$x".toList := by
  intro template
  have herror : compile template = .error ⟨template, ⟨1, .unclosedGroup⟩⟩ := by decide +kernel
  obtain ⟨-, -, before, behind, heq, hlength, -, hcause⟩ := compile_error_cause herror
  have hsplit : ['a'] ++ "[b[c]$x".toList = before ++ behind := heq
  obtain ⟨rfl, rfl⟩ := List.append_inj hsplit hlength.symm
  exact ⟨herror, hcause⟩

end Pattern

end DsnBinding
