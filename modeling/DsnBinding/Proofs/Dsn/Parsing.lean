import DsnBinding.Dsn.Parsing

/-!
What is known of a parsed text and of the record that was parsed from it: the path was matched, and
the record was bound from what the text contains.
-/
namespace DsnBinding

namespace Schema

variable {s : Schema} {text : Text} {contents : Contents}

theorem read_eq_ok (h : s.read text = .ok contents) :
    ∃ o, s.pattern.run (text.before '?') = .ok o ∧
      contents = ⟨o.captures, o.scheme, Query.parse (text.after '?')⟩ := by
  unfold read at h
  dsimp only [Query.extract] at h
  split at h
  · rename_i o hrun
    exact ⟨o, hrun, (Except.ok.inj h).symm⟩
  · split at h <;> cases h

theorem parse_eq_none {record record' : Record} (h : s.parse record text = (record', none)) :
    ∃ contents, s.read text = .ok contents ∧ contents.bind s.fields record = (record', none) := by
  unfold parse at h
  split at h
  · cases h
  · rename_i contents hread
    obtain ⟨hrecord, hnone⟩ := Prod.mk.inj h
    refine ⟨contents, hread, Prod.ext hrecord ?_⟩
    simpa using hnone

end Schema

namespace RecordType

variable {d : Declaration} {record : Record}

theorem create_eq_ok (h : (RecordType.declared d).create = .ok record) :
    record = (RecordType.declared d).fresh := by
  unfold create at h
  dsimp only at h
  split at h
  · cases h
  · exact (Except.ok.inj h).symm

theorem parseNew_eq_ok {s : Schema} {text : Text}
    (hschema : Schema.ofRecordType (.declared d) = .ok s)
    (h : (RecordType.declared d).parseNew text = .ok record) :
    ∃ contents, s.read text = .ok contents ∧
      contents.bind s.fields (RecordType.declared d).fresh = (record, none) := by
  unfold parseNew at h
  split at h
  · cases h
  · rename_i fresh hcreate
    obtain rfl := create_eq_ok hcreate
    split at h
    · rename_i record' hparse
      obtain rfl := Except.ok.inj h
      simp only [parse, parseWith, hschema] at hparse
      exact Schema.parse_eq_none hparse
    · cases h

end RecordType

end DsnBinding
