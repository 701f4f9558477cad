import DsnBinding.Proofs.OrderedMap
import DsnBinding.Proofs.Text
import DsnBinding.Query

/-!
Queries that are joined by an ampersand. The pairs of both follow one another, and as empty pairs
count for nothing, an ampersand with nothing in front of it or behind it does not either. A query is
read as the map of its pairs, so that the joined query is read as the first map with the second one
written over it, although the second has only the last of several values of a key.
-/
namespace DsnBinding.Query

theorem pairsOf_append (a b : Text) : pairsOf (a ++ '&' :: b) = pairsOf a ++ pairsOf b := by
  simp only [pairsOf, List.splitOn_append_cons_self, List.filter_append, List.map_append]

theorem pairsOf_nil : pairsOf [] = [] := rfl

theorem pairsOf_cons_ampersand (a : Text) : pairsOf ('&' :: a) = pairsOf a := by
  simpa [pairsOf_nil] using pairsOf_append [] a

/-- Joining two queries writes the parameters of the second over those of the first. -/
theorem parse_append (a b : Text) :
    parse (a ++ '&' :: b) = (parse a).insertAll (parse b).entries := by
  have hsecond : (parse a).insertAll (parse b).entries = (parse a).insertAll (pairsOf b) :=
    OrderedMap.insertAll_ofList (OrderedMap.nodup_ofList _) _
  rw [hsecond, parse, pairsOf_append, OrderedMap.ofList, OrderedMap.insertAll_append]
  rfl

/-- A joined query is read as the first one with the second one written over it: a key of the first
keeps its place and takes the value of the second, if that has one, and the other keys of the second
go to the end in their order. Ampersands at the ends or next to another one make no difference. Each
key stands once, in the place of its first pair and with the value of its last one. -/
theorem parse_joined (a b : Text) :
    parse (a ++ '&' :: b) = (parse a).insertAll (parse b).entries ∧
      (parse (a ++ '&' :: b)).keys =
        (parse a).keys ++ (parse b).keys.filter (!(parse a).contains ·) ∧
      (∀ k, (parse (a ++ '&' :: b)).get? k = ((parse b).get? k).or ((parse a).get? k)) ∧
      parse ('&' :: a) = parse a ∧ parse (a ++ ['&']) = parse a ∧
      parse (a ++ '&' :: '&' :: b) = parse (a ++ '&' :: b) ∧
      (parse a).keys.Nodup ∧ (parse a).keys = ((pairsOf a).map Prod.fst).eraseDups ∧
      ∀ k, (parse a).get? k = (((pairsOf a).filter (·.1 = k)).getLast?).map Prod.snd := by
  have hsecond : (parse b).keys.Nodup := OrderedMap.nodup_ofList _
  refine ⟨parse_append a b, ?_, ?_, ?_, ?_, ?_, OrderedMap.nodup_ofList _, OrderedMap.keys_ofList _,
    OrderedMap.get?_ofList _⟩
  · rw [parse_append, OrderedMap.keys_insertAll_entries _ hsecond]
  · intro k
    rw [parse_append, OrderedMap.get?_insertAll_entries _ hsecond]
  · rw [parse, pairsOf_cons_ampersand, parse]
  · rw [parse, pairsOf_append, pairsOf_nil, List.append_nil, parse]
  · rw [parse, pairsOf_append, pairsOf_cons_ampersand, ← pairsOf_append, parse]

/-- Keys that are repeated within each query and across them, with an empty pair between them. -/
theorem parse_joined_repeated_keys :
    let a : Text := ['b', '=', '1', '&', 'a', '&', 'b', '=', '2', '&']
    let b : Text := ['c', '=', '4', '&', 'b', '=', '3', '&', 'c', '=', '5']
    parse a = ⟨[(['b'], ['2']), (['a'], [])]⟩ ∧ parse b = ⟨[(['c'], ['5']), (['b'], ['3'])]⟩ ∧
      parse (a ++ '&' :: b) = ⟨[(['b'], ['3']), (['a'], []), (['c'], ['5'])]⟩ ∧
      (parse (a ++ '&' :: b)).keys = [['b'], ['a'], ['c']] ∧
      parse ('&' :: a) = ⟨[(['b'], ['2']), (['a'], [])]⟩ := by
  intro a b
  have ha : parse a = ⟨[(['b'], ['2']), (['a'], [])]⟩ := by decide
  have hb : parse b = ⟨[(['c'], ['5']), (['b'], ['3'])]⟩ := by decide
  obtain ⟨hmap, hkeys, -, hfront, -⟩ := parse_joined a b
  refine ⟨ha, hb, ?_, ?_, hfront.trans ha⟩
  · rw [hmap, ha, hb]
    decide
  · rw [hkeys, ha, hb]
    decide

end DsnBinding.Query
