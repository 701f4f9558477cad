import DsnBinding.Proofs.OrderedMap
import DsnBinding.Proofs.Text
import DsnBinding.Query

/-!
Reading a rendered query back. The separators cut the rendered text exactly where they were put, as
long as no key or value holds one that could be taken for another, so that the parameters come back
in their order. This is also the only case in which they do, since nothing that was read from a query
holds such a separator. The query is found behind any path without a question mark.
-/
namespace DsnBinding

namespace Query

/-- The parameters can be told apart in a text: no key is repeated and nothing in them is taken for
a separator. -/
structure IsPlain (query : Query) : Prop where
  nodup : query.keys.Nodup
  ampersand : ∀ pair ∈ query.entries, '&' ∉ pair.1 ∧ '&' ∉ pair.2
  equals : ∀ pair ∈ query.entries, '=' ∉ pair.1

theorem pairOf_renderPair {pair : Text × Text} (h : '=' ∉ pair.1) :
    pairOf (renderPair pair) = pair := by
  simp [pairOf, renderPair, Text.before_append_cons h, Text.after_append_cons h]

theorem pairsOf_renderPairs {pairs : List (Text × Text)}
    (hampersand : ∀ pair ∈ pairs, '&' ∉ pair.1 ∧ '&' ∉ pair.2)
    (hequals : ∀ pair ∈ pairs, '=' ∉ pair.1) : pairsOf (renderPairs pairs) = pairs := by
  by_cases hne : pairs = []
  · subst hne
    rfl
  · have hclean : ∀ t ∈ pairs.map renderPair, '&' ∉ t := by
      intro t ht
      obtain ⟨pair, hpair, rfl⟩ := List.mem_map.1 ht
      simpa [renderPair] using hampersand pair hpair
    have hpieces : (renderPairs pairs).splitOn '&' = pairs.map renderPair :=
      List.splitOn_intercalate '&' hclean (by simpa using hne)
    have hfull : (pairs.map renderPair).filter (!·.isEmpty) = pairs.map renderPair := by
      apply List.filter_eq_self.2
      intro t ht
      obtain ⟨pair, -, rfl⟩ := List.mem_map.1 ht
      simp [renderPair]
    rw [pairsOf, hpieces, hfull, List.map_map]
    refine (List.map_congr_left ?_).trans (List.map_id pairs)
    intro pair hpair
    exact pairOf_renderPair (hequals pair hpair)

/-- A plain query is read back from its rendering. -/
theorem parse_render {query : Query} (h : query.IsPlain) : parse (render query) = query := by
  rw [parse, render, pairsOf_renderPairs h.ampersand h.equals]
  exact OrderedMap.ofList_of_nodup h.nodup

/-- What is read from a query can be told apart. -/
theorem isPlain_parse (text : Text) : (parse text).IsPlain := by
  have hpiece : ∀ pair ∈ (parse text).entries, ∃ piece, '&' ∉ piece ∧ pairOf piece = pair := by
    intro pair hpair
    obtain ⟨piece, hmem, heq⟩ := List.mem_map.1 (OrderedMap.mem_entries_ofList hpair)
    exact ⟨piece, (Text.mem_splitOn (List.mem_filter.1 hmem).1).1, heq⟩
  refine ⟨OrderedMap.nodup_ofList _, ?_, ?_⟩
  · intro pair hpair
    obtain ⟨piece, hamp, rfl⟩ := hpiece pair hpair
    exact ⟨fun h => hamp (Text.mem_of_mem_before h), fun h => hamp (Text.mem_of_mem_after h)⟩
  · intro pair hpair
    obtain ⟨piece, -, rfl⟩ := hpiece pair hpair
    exact Text.not_mem_before '=' piece

/-- A map of parameters comes back from its rendering exactly if no key has an ampersand or an equals
sign and no value has an ampersand. Whatever is read from a query is such a map, so that rendering and
reading once more changes nothing, and such a map is found behind every path without a question
mark. -/
theorem parse_render_iff {query : Query} (hkeys : query.keys.Nodup) :
    (parse (render query) = query ↔
      ∀ pair ∈ query.entries, '&' ∉ pair.1 ∧ '=' ∉ pair.1 ∧ '&' ∉ pair.2) ∧
    (∀ text, (parse text).IsPlain ∧ parse (render (parse text)) = parse text) ∧
    ((∀ pair ∈ query.entries, '&' ∉ pair.1 ∧ '=' ∉ pair.1 ∧ '&' ∉ pair.2) →
      ∀ path, '?' ∉ path → extract (path ++ '?' :: render query) = (path, query)) := by
  have hplain : (∀ pair ∈ query.entries, '&' ∉ pair.1 ∧ '=' ∉ pair.1 ∧ '&' ∉ pair.2) →
      query.IsPlain := by
    intro h
    exact ⟨hkeys, fun pair hpair => ⟨(h pair hpair).1, (h pair hpair).2.2⟩,
      fun pair hpair => (h pair hpair).2.1⟩
  refine ⟨⟨?_, fun h => parse_render (hplain h)⟩, ?_, ?_⟩
  · intro h pair hpair
    have hread : query.IsPlain := h ▸ isPlain_parse (render query)
    obtain ⟨hkey, hvalue⟩ := hread.ampersand pair hpair
    exact ⟨hkey, hread.equals pair hpair, hvalue⟩
  · intro text
    exact ⟨isPlain_parse text, parse_render (isPlain_parse text)⟩
  · intro h path hpath
    rw [extract, Text.before_append_cons hpath, Text.after_append_cons hpath,
      parse_render (hplain h)]

/-- The empty key and a value with equals signs come back, a key with an ampersand does not. -/
theorem parse_render_iff_equals_signs :
    let query : Query := ⟨[(['b'], ['=', '=']), ([], []), (['a'], ['?'])]⟩
    let split : Query := ⟨[(['a', '&', 'b'], [])]⟩
    query.keys.Nodup ∧ parse (render query) = query ∧
      extract (['h', '/', '&'] ++ '?' :: render query) = (['h', '/', '&'], query) ∧
      split.keys.Nodup ∧ parse (render split) ≠ split := by
  intro query split
  have hkeys : query.keys.Nodup := by decide
  have hclean : ∀ pair ∈ query.entries, '&' ∉ pair.1 ∧ '=' ∉ pair.1 ∧ '&' ∉ pair.2 := by decide
  have hkeys' : split.keys.Nodup := by decide
  have hsplit : ¬ ∀ pair ∈ split.entries, '&' ∉ pair.1 ∧ '=' ∉ pair.1 ∧ '&' ∉ pair.2 := by decide
  obtain ⟨hback, -, hextract⟩ := parse_render_iff hkeys
  exact ⟨hkeys, hback.2 hclean, hextract hclean _ (by decide), hkeys',
    fun h => hsplit ((parse_render_iff hkeys').1.1 h)⟩

end Query

end DsnBinding
