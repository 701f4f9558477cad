import DsnBinding.Pattern
import DsnBinding.Proofs.Distinct
import DsnBinding.Proofs.Outcome
import DsnBinding.Proofs.Template.Following
import Mathlib.Data.List.Induction
import Mathlib.Order.Bounds.Basic

/-!
The stops of a compiled pattern. They are computed from the heads of what stands behind a capture,
and they are exactly the texts that stand right behind it in some spelling of the template, in the
order in which the template has them. A template is refused exactly if some spelling has two
captures side by side.
-/
namespace DsnBinding

mutual

/-- The captures of a segment with their stops, in the order of the template. -/
def Segment.captures (place : Nat) : Segment → List (Occurrence × List Text)
  | .capture name stops offset => [(⟨place, .capture name offset⟩, stops)]
  | .group inner => Segments.captures place inner
  | .literal _ | .choice _ | .bare => []

def Segments.captures (place : Nat) : Segments → List (Occurrence × List Text)
  | [] => []
  | segment :: rest => segment.captures place ++ Segments.captures (place + segment.width) rest

end

mutual

def Segment.withoutStops : Segment → Segment
  | .capture name _ offset => .capture name [] offset
  | .group inner => .group (Segments.withoutStops inner)
  | .literal text => .literal text
  | .choice options => .choice options
  | .bare => .bare

def Segments.withoutStops : Segments → Segments
  | [] => []
  | segment :: rest => segment.withoutStops :: Segments.withoutStops rest

end

theorem Segment.withStops_capture_eq_ok {name : Text} {stops : List Text} {offset : Nat}
    {next : Heads} {segment' : Segment} :
    (Segment.capture name stops offset).withStops next = .ok segment' ↔
      next.capture = false ∧ segment' = .capture name next.literals.eraseDups offset := by
  rw [withStops]
  cases next.capture with
  | true => simp
  | false => simp [eq_comm]

theorem Segment.withStops_group_eq_ok {inner : Segments} {next : Heads} {segment' : Segment} :
    (Segment.group inner).withStops next = .ok segment' ↔
      ∃ inner', Segments.withStops next inner = .ok inner' ∧ segment' = .group inner' := by
  rw [withStops, map_eq_ok]
  simp only [eq_comm]

/-- The stops of a capture with the given followers. -/
def stopsOf (followers : List Occurrence) : List Text :=
  (followers.filterMap (·.atom.text?)).eraseDups

/-- The heads that the given atoms amount to. -/
def Heads.IsOf (h : Heads) (l : List Occurrence) : Prop :=
  h.literals = l.filterMap (·.atom.text?) ∧ h.capture = l.any (·.atom.isCapture)

namespace Segments

theorem isOf_followedBy {next : Heads} {l : List Occurrence} (h : next.IsOf l)
    (segments : Segments) (place : Nat) :
    ((heads segments).followedBy next).IsOf (firstsBefore place segments l) := by
  rw [heads_eq segments place, Heads.followedBy, firstsBefore]
  cases (heads segments).empty with
  | false => simp [Heads.IsOf]
  | true => simp [Heads.IsOf, h.1, h.2]

theorem withStops_cons_eq_ok {segment : Segment} {rest segments' : Segments} {next : Heads} :
    withStops next (segment :: rest) = .ok segments' ↔
      ∃ segment' rest', segment.withStops ((heads rest).followedBy next) = .ok segment' ∧
        withStops next rest = .ok rest' ∧ segments' = segment' :: rest' := by
  rw [withStops]
  constructor
  · intro h
    split at h
    · cases h
    · rename_i segment' hsegment
      obtain ⟨rest', hrest, rfl⟩ := map_eq_ok.1 h
      exact ⟨segment', rest', hsegment, hrest, rfl⟩
  · intro hsome
    obtain ⟨segment', rest', hsegment, hrest, rfl⟩ := hsome
    simp only [hsegment, hrest, Except.map]

theorem withoutStops_withStops {segments segments' : Segments} {next : Heads}
    (h : withStops next segments = .ok segments') :
    withoutStops segments' = withoutStops segments := by
  induction segments using nestedInduction generalizing next segments' with
  | nil =>
    obtain rfl := Except.ok.inj h
    rfl
  | cons segment rest hinner ih =>
    obtain ⟨segment', rest', hsegment, hrest, rfl⟩ := withStops_cons_eq_ok.1 h
    have hfirst : segment'.withoutStops = segment.withoutStops := by
      cases segment with
      | capture name stops offset =>
        obtain ⟨-, rfl⟩ := Segment.withStops_capture_eq_ok.1 hsegment
        rfl
      | group inner =>
        obtain ⟨inner', hinner', rfl⟩ := Segment.withStops_group_eq_ok.1 hsegment
        exact congrArg Segment.group (hinner inner rfl hinner')
      | literal _ | choice _ | bare =>
        obtain rfl := Except.ok.inj hsegment
        rfl
    rw [withoutStops, withoutStops, hfirst, ih hrest]

/-- Stops are given to a sequence if no capture of it has a capture among its followers. -/
theorem withStops_eq_ok {segments segments' : Segments} {next : Heads} {l : List Occurrence}
    (hl : next.IsOf l) (place : Nat) (h : withStops next segments = .ok segments') :
    (∀ e ∈ followers place l segments, e.2.any (·.atom.isCapture) = false) ∧
      captures place segments' = (followers place l segments).map (fun e => (e.1, stopsOf e.2)) ∧
      width segments' = width segments ∧ withoutStops segments' = withoutStops segments := by
  induction segments using nestedInduction generalizing place next l segments' with
  | nil =>
    obtain rfl := Except.ok.inj h
    simp [followers, captures]
  | cons segment rest hinner ih =>
    have hshape := withoutStops_withStops h
    obtain ⟨segment', rest', hsegment, hrest, rfl⟩ := withStops_cons_eq_ok.1 h
    obtain ⟨hnone, hcaptures, hwidth, -⟩ := ih hl (place + segment.width) hrest
    have hnext := isOf_followedBy hl rest (place + segment.width)
    have hfirst : (∀ e ∈ segment.followers place (firstsBefore (place + segment.width) rest l),
          e.2.any (·.atom.isCapture) = false) ∧
        segment'.captures place = (segment.followers place
          (firstsBefore (place + segment.width) rest l)).map (fun e => (e.1, stopsOf e.2)) ∧
        segment'.width = segment.width := by
      cases segment with
      | capture name stops offset =>
        obtain ⟨hcapture, rfl⟩ := Segment.withStops_capture_eq_ok.1 hsegment
        rw [hnext.2] at hcapture
        simpa [Segment.followers, Segment.captures, Segment.width, stopsOf, hnext.1] using hcapture
      | group inner =>
        obtain ⟨inner', hinner', rfl⟩ := Segment.withStops_group_eq_ok.1 hsegment
        obtain ⟨hnone, hcaptures, hwidth, -⟩ := hinner inner rfl hnext place hinner'
        exact ⟨hnone, hcaptures, hwidth⟩
      | literal _ | choice _ | bare =>
        obtain rfl := Except.ok.inj hsegment
        simp [Segment.followers, Segment.captures]
    obtain ⟨hnone', hcaptures', hwidth'⟩ := hfirst
    refine ⟨?_, ?_, ?_, hshape⟩
    · intro e he
      rcases List.mem_append.1 he with he | he
      · exact hnone' e he
      · exact hnone e he
    · rw [captures, followers, List.map_append, hcaptures', hwidth', hcaptures]
    · rw [width, width, hwidth', hwidth]

/-- Stops are refused to the first capture of a sequence that has a capture among its followers. -/
theorem withStops_eq_error {segments : Segments} {next : Heads} {l : List Occurrence}
    (hl : next.IsOf l) (place : Nat) {fault : Template.Fault}
    (h : withStops next segments = .error fault) :
    ∃ before a la after name, followers place l segments = before ++ (a, la) :: after ∧
      (∀ e ∈ before, e.2.any (·.atom.isCapture) = false) ∧
      la.any (·.atom.isCapture) = true ∧ a.atom = .capture name fault.offset ∧
      fault.complaint = .adjacentCaptures name := by
  induction segments using nestedInduction generalizing place next l with
  | nil => cases h
  | cons segment rest hinner ih =>
    have hnext := isOf_followedBy hl rest (place + segment.width)
    rw [followers]
    unfold withStops at h
    split at h
    · rename_i fault' hsegment
      obtain rfl := Except.error.inj h
      cases segment with
      | capture name stops offset =>
        unfold Segment.withStops at hsegment
        split at hsegment
        · rename_i hcapture
          obtain rfl := Except.error.inj hsegment
          rw [hnext.2] at hcapture
          exact ⟨[], _, _, _, name, rfl, by simp, hcapture, rfl, rfl⟩
        · cases hsegment
      | group inner =>
        obtain ⟨before, a, la, after, name, heq, hrest⟩ :=
          hinner inner rfl hnext place (map_eq_error.1 hsegment)
        refine ⟨before, a, la, after ++ followers (place + (Segment.group inner).width) l rest, name,
          ?_, hrest⟩
        rw [Segment.followers, heq, List.append_assoc, List.cons_append]
      | literal _ | choice _ | bare => cases hsegment
    · rename_i segment' hsegment
      obtain ⟨before, a, la, after, name, heq, hbefore, hrest⟩ :=
        ih hl (place + segment.width) (map_eq_error.1 h)
      have hsingle : withStops ((heads rest).followedBy next) [segment] = .ok [segment'] := by
        simp [withStops, heads, hsegment, Except.map]
      have hnone := (withStops_eq_ok hnext place hsingle).1
      simp only [followers, firstsBefore, firsts, heads, Heads.nothing, List.nil_append,
        List.append_nil, if_true] at hnone
      refine ⟨_ ++ before, a, la, after, name, by rw [heq, ← List.append_assoc], ?_, hrest⟩
      intro e he
      rcases List.mem_append.1 he with he | he
      · exact hnone e he
      · exact hbefore e he

theorem withoutStops_eq_self {segments : Segments}
    (h : ∀ name stops offset, Segment.capture name stops offset ∈ leaves segments → stops = []) :
    withoutStops segments = segments := by
  induction segments using nestedInduction with
  | nil => rfl
  | cons segment rest hinner ih =>
    have hrest := ih fun name stops offset hmem =>
      h name stops offset (List.mem_append_right _ hmem)
    rw [withoutStops, hrest]
    apply congrArg (· :: rest)
    cases segment with
    | group inner =>
      refine congrArg Segment.group (hinner inner rfl ?_)
      intro name stops offset hmem
      exact h name stops offset (List.mem_append_left _ hmem)
    | capture name stops offset =>
      have hstops : stops = [] := h name stops offset (by simp [leaves, Segment.leaves])
      rw [Segment.withoutStops, hstops]
    | literal _ | choice _ | bare => rfl

theorem withoutStops_outline {template : Text} {segments : Segments}
    (h : Template.outline template = .ok segments) : withoutStops segments = segments := by
  apply withoutStops_eq_self
  intro name stops offset hmem
  rcases Template.leaf_outline h hmem with ⟨text, heq, _⟩ | ⟨name', offset', heq⟩ | ⟨options, heq, _⟩
  · cases heq
  · exact (Segment.capture.inj heq).2.1
  · cases heq

end Segments

/-- The distinct values of sorted members come in the order in which they appear first. -/
theorem pairwise_eraseDups_filterMap {α β : Type} [BEq α] [LawfulBEq α] {r : β → β → Prop}
    {members : List β} (f : β → Option α) (h : members.Pairwise r) :
    (members.filterMap f).eraseDups.Pairwise fun s t =>
      ∃ b ∈ members, f b = some s ∧ ∀ c ∈ members, f c = some t → r b c := by
  induction members using List.reverseRecOn with
  | nil => exact List.Pairwise.nil
  | append_singleton members x ih =>
    obtain ⟨hmembers, -, hx⟩ := List.pairwise_append.1 h
    have hx : ∀ b ∈ members, r b x := fun b hb => hx b hb x (List.mem_singleton.2 rfl)
    have hold : (members.filterMap f).eraseDups.Pairwise fun s t =>
        ∃ b ∈ members ++ [x], f b = some s ∧ ∀ c ∈ members ++ [x], f c = some t → r b c := by
      apply (ih hmembers).imp
      intro s t hsome
      obtain ⟨b, hb, hs, hbefore⟩ := hsome
      refine ⟨b, List.mem_append_left _ hb, hs, ?_⟩
      intro c hc ht
      rcases List.mem_append.1 hc with hc | hc
      · exact hbefore c hc ht
      · exact List.mem_singleton.1 hc ▸ hx b hb
    cases hfx : f x with
    | none => simpa [hfx] using hold
    | some a =>
      have hstep : (members ++ [x]).filterMap f = members.filterMap f ++ [a] := by
        simp [List.filterMap_append, hfx]
      rw [hstep, eraseDups_concat]
      split
      · exact hold
      · rename_i hnew
        refine List.pairwise_append.2 ⟨hold, List.pairwise_singleton _ _, ?_⟩
        intro s hs t ht
        obtain rfl := List.mem_singleton.1 ht
        obtain ⟨b, hb, hs⟩ := List.mem_filterMap.1 (List.mem_eraseDups.1 hs)
        refine ⟨b, List.mem_append_left _ hb, hs, ?_⟩
        intro c hc ht
        rcases List.mem_append.1 hc with hc | hc
        · have hin : t ∈ members.filterMap f := List.mem_filterMap.2 ⟨c, hc, ht⟩
          exact absurd (List.contains_iff_mem.2 hin) hnew
        · exact List.mem_singleton.1 hc ▸ hx b hb

namespace Pattern

theorem compile_eq {template : Text} {segments : Segments}
    (h : Template.outline template = .ok segments) :
    compile template =
      match Segments.withStops Heads.nothing segments with
      | .error fault => .error ⟨template, fault⟩
      | .ok segments => .ok ⟨template, segments⟩ := by
  cases hstops : Segments.withStops Heads.nothing segments with
  | error fault => simp only [compile, segmentsOf, h, hstops]
  | ok segments' => simp only [compile, segmentsOf, h, hstops]

theorem isOf_nothing : Heads.nothing.IsOf [] := ⟨rfl, rfl⟩

/-- The captures in front of a refused one stand before it. -/
theorem offset_le_of_mem_followers {segments : Segments}
    {before after : List (Occurrence × List Occurrence)}
    {a a' : Occurrence} {l l' : List Occurrence} {name name' : Text} {offset offset' : Nat}
    (hincreasing : ((Segments.leaves segments).filterMap Segment.captureOffset?).Pairwise (· < ·))
    (heq : Segments.followers 0 [] segments = before ++ (a, l) :: after)
    (ha : a.atom = .capture name offset) (ha' : a'.atom = .capture name' offset')
    (hmem : (a', l') ∈ (a, l) :: after) : offset ≤ offset' := by
  rw [← Segments.offsets_followers segments 0 [], heq, List.pairwise_filterMap,
    List.pairwise_append] at hincreasing
  rcases List.mem_cons.1 hmem with he | hmem
  · obtain ⟨rfl, -⟩ := Prod.mk.inj he
    rw [ha] at ha'
    exact Nat.le_of_eq (Atom.capture.inj ha').2
  · have hlt := (List.pairwise_cons.1 hincreasing.2.1).1 _ hmem offset (by simp [ha, Atom.offset?])
      offset' (by simp [ha', Atom.offset?])
    exact Nat.le_of_lt hlt

variable {segments segments' : Segments}

/-- Stops are refused where a capture can follow a capture, at the first such place. -/
theorem isLeast_of_withStops_error (hoptions : Segments.HasOptions segments)
    (hincreasing : ((Segments.leaves segments).filterMap Segment.captureOffset?).Pairwise (· < ·))
    {fault : Template.Fault} (hstops : Segments.withStops Heads.nothing segments = .error fault) :
    (∃ name, fault.complaint = .adjacentCaptures name) ∧
      IsLeast {offset | ∃ a b name, Follows (Segments.spellings 0 segments) a b ∧
        a.atom = .capture name offset ∧ b.atom.isCapture = true} fault.offset := by
  obtain ⟨before, a, l, after, name, heq, hbefore, hcapture, ha, hcomplaint⟩ :=
    Segments.withStops_eq_error isOf_nothing 0 hstops
  obtain ⟨b, hb, hbcapture⟩ := List.any_eq_true.1 hcapture
  have hmem : (a, l) ∈ Segments.followers 0 [] segments := by simp [heq]
  have hab : Follows (Segments.spellings 0 segments) a b :=
    (Segments.follows_iff hoptions (by simp [ha, Atom.isCapture]) b).2 ⟨l, hmem, hb⟩
  refine ⟨⟨name, hcomplaint⟩, ⟨a, b, name, hab, ha, hbcapture⟩, ?_⟩
  intro offset' hsome
  obtain ⟨a', b', name', hab', ha', hb'⟩ := hsome
  obtain ⟨l', hl', hmem'⟩ :=
    (Segments.follows_iff hoptions (by simp [ha', Atom.isCapture]) b').1 hab'
  rw [heq] at hl'
  rcases List.mem_append.1 hl' with hl' | hl'
  · have hnone := hbefore _ hl'
    rw [List.any_eq_false] at hnone
    exact absurd hb' (hnone b' hmem')
  · exact offset_le_of_mem_followers hincreasing heq ha ha' hl'

theorem isCapture_eq_false_of_withStops_ok (hoptions : Segments.HasOptions segments)
    (hstops : Segments.withStops Heads.nothing segments = .ok segments') {a b : Occurrence}
    (hab : Follows (Segments.spellings 0 segments) a b) (ha : a.atom.isCapture = true) :
    b.atom.isCapture = false := by
  obtain ⟨hnone, -, -, -⟩ := Segments.withStops_eq_ok isOf_nothing 0 hstops
  obtain ⟨l, hl, hmem⟩ := (Segments.follows_iff hoptions ha b).1 hab
  have hno := hnone _ hl
  rw [List.any_eq_false] at hno
  simpa using hno b hmem

theorem stops_of_withStops_ok (hoptions : Segments.HasOptions segments)
    (hstops : Segments.withStops Heads.nothing segments = .ok segments') {a : Occurrence}
    {stops : List Text} (hmem : (a, stops) ∈ Segments.captures 0 segments') :
    let follows := Follows (Segments.spellings 0 segments)
    stops.Nodup ∧ (∀ t, t ∈ stops ↔ ∃ b, follows a b ∧ b.atom = .text t) ∧
      stops.Pairwise fun s t => ∃ b, follows a b ∧ b.atom = .text s ∧
        ∀ c, follows a c → c.atom = .text t → b.place < c.place := by
  intro follows
  obtain ⟨-, hcaptures, -, -⟩ := Segments.withStops_eq_ok isOf_nothing 0 hstops
  rw [hcaptures] at hmem
  obtain ⟨⟨a, l⟩, hl, heq⟩ := List.mem_map.1 hmem
  obtain ⟨rfl, rfl⟩ := Prod.mk.inj heq
  obtain ⟨hsorted, hfollows⟩ := Segments.mem_followers_iff hoptions hl
  refine ⟨nodup_eraseDups _, ?_, ?_⟩
  · intro t
    rw [stopsOf, List.mem_eraseDups, List.mem_filterMap]
    simp only [hfollows, Atom.text?_eq_some]
    rfl
  · refine (pairwise_eraseDups_filterMap (·.atom.text?) hsorted).imp ?_
    intro s t hsome
    obtain ⟨b, hb, hs, hbefore⟩ := hsome
    refine ⟨b, (hfollows b).1 hb, Atom.text?_eq_some.1 hs, ?_⟩
    intro c hc ht
    exact hbefore c ((hfollows c).2 hc) (Atom.text?_eq_some.2 ht)

/-- A template that can be read is refused exactly if two captures stand side by side in a spelling,
and then at the first capture that another one can follow. Otherwise each capture gets as stops the
texts that can follow it, without repetition and in the order in which they can first follow. -/
theorem compile_follow {template : Text} {segments : Segments}
    (h : Template.outline template = .ok segments) :
    let follows := Follows (Segments.spellings 0 segments)
    ((∃ e, compile template = .error e ∧ e.code = "adjacent_variables") ↔
      ∃ a b, follows a b ∧ a.atom.isCapture = true ∧ b.atom.isCapture = true) ∧
    (∀ e, compile template = .error e →
      IsLeast {offset | ∃ a b name, follows a b ∧ a.atom = .capture name offset ∧
        b.atom.isCapture = true} e.offset) ∧
    ((∀ a b, follows a b → a.atom.isCapture = true → b.atom.isCapture = false) →
      ∃ p, compile template = .ok p ∧ p.template = template ∧
        Segments.withoutStops p.segments = segments ∧
        ∀ a stops, (a, stops) ∈ Segments.captures 0 p.segments →
          stops.Nodup ∧ (∀ t, t ∈ stops ↔ ∃ b, follows a b ∧ b.atom = .text t) ∧
          stops.Pairwise fun s t => ∃ b, follows a b ∧ b.atom = .text s ∧
            ∀ c, follows a c → c.atom = .text t → b.place < c.place) := by
  intro follows
  have hoptions := hasOptions_outline h
  rw [compile_eq h]
  cases hstops : Segments.withStops Heads.nothing segments with
  | error fault =>
    obtain ⟨⟨name, hcomplaint⟩, hleast⟩ :=
      isLeast_of_withStops_error hoptions (Template.captureOffsets_outline h) hstops
    obtain ⟨a, b, name', hab, ha, hb⟩ := hleast.1
    have hacapture : a.atom.isCapture = true := by simp [ha, Atom.isCapture]
    refine ⟨⟨?_, ?_⟩, ?_, ?_⟩
    · intro _
      exact ⟨a, b, hab, hacapture, hb⟩
    · intro _
      refine ⟨_, rfl, ?_⟩
      simp [Template.Error.code, hcomplaint, Template.Complaint.code]
    · intro e he
      obtain rfl := Except.error.inj he
      exact hleast
    · intro hnone
      rw [hnone a b hab hacapture] at hb
      cases hb
  | ok segments' =>
    refine ⟨⟨?_, ?_⟩, ?_, ?_⟩
    · intro hsome
      obtain ⟨e, he, -⟩ := hsome
      cases he
    · intro hsome
      obtain ⟨a, b, hab, ha, hb⟩ := hsome
      rw [isCapture_eq_false_of_withStops_ok hoptions hstops hab ha] at hb
      cases hb
    · intro e he
      cases he
    · intro _
      obtain ⟨-, -, -, hshape⟩ := Segments.withStops_eq_ok isOf_nothing 0 hstops
      refine ⟨⟨template, segments'⟩, rfl, rfl, ?_, ?_⟩
      · rw [hshape, Segments.withoutStops_outline h]
      · intro a stops hmem
        exact stops_of_withStops_ok hoptions hstops hmem

/-- Behind the group the choice can be left out, so that the second capture follows the first. -/
theorem compile_follow_optional_choice :
    let template : Text := ['[', ':', '$', 'A', ']', '(', 'x', ')', '$', 'B']
    let segments : Segments :=
      [.group [.literal [':'], .capture ['A'] [] 2], .choice [['x'], []], .capture ['B'] [] 8]
    Template.outline template = .ok segments ∧
      compile template = .error ⟨template, ⟨2, .adjacentCaptures ['A']⟩⟩ ∧
      IsLeast {offset | ∃ a b name, Follows (Segments.spellings 0 segments) a b ∧
        a.atom = .capture name offset ∧ b.atom.isCapture = true} 2 := by
  intro template segments
  have h : Template.outline template = .ok segments := rfl
  have he : compile template = .error ⟨template, ⟨2, .adjacentCaptures ['A']⟩⟩ := rfl
  exact ⟨h, he, (compile_follow h).2.1 _ he⟩

end Pattern

end DsnBinding
