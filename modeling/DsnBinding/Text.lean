/-!
Texts are lists of characters, so an offset into a text counts characters. The operations here cut
a text at a separator and look for marks inside it. They are written
by recursion on the text, and a cut is a pair of complementary parts: nothing else is dropped than
the separator itself.
-/
namespace DsnBinding

abbrev Text := List Char

namespace Text

/-- The part before the first separator; the whole text if there is none. -/
def before (sep : Char) (t : Text) : Text := t.takeWhile (· != sep)

/-- The part after the first separator; empty if there is none. -/
def after (sep : Char) (t : Text) : Text := (t.dropWhile (· != sep)).drop 1

theorem before_append_after {sep : Char} {t : Text} (h : sep ∈ t) :
    before sep t ++ sep :: after sep t = t := by
  induction t with
  | nil => simp at h
  | cons c t ih =>
    by_cases hc : c = sep
    · simp [before, after, hc]
    · have ht : sep ∈ t := (List.mem_cons.1 h).resolve_left fun e => hc e.symm
      simpa [before, after, hc] using ih ht

theorem not_mem_before (sep : Char) (t : Text) : sep ∉ before sep t := by
  induction t with
  | nil => simp [before]
  | cons c t ih =>
    by_cases hc : c = sep
    · simp [before, hc]
    · simpa [before, hc, Ne.symm hc] using ih

/-- The words of several lines, which single spaces part. -/
def words (lines : List String) : List Text := lines.flatMap (·.toList.splitOn ' ')

/-- The part before the first position at which one of the stops begins. -/
def upTo (stops : List Text) : Text → Text
  | [] => []
  | c :: t => if stops.any (·.isPrefixOf (c :: t)) then [] else c :: upTo stops t

theorem upTo_isPrefix (stops : List Text) (t : Text) : upTo stops t <+: t := by
  induction t with
  | nil => exact List.prefix_refl []
  | cons c t ih =>
    unfold upTo
    split
    · exact List.nil_prefix
    · exact List.cons_prefix_cons.2 ⟨rfl, ih⟩

def includes : Text → Text → Bool
  | [], mark => mark.isEmpty
  | c :: t, mark => mark.isPrefixOf (c :: t) || includes t mark

def joined (sep : Text) (texts : List Text) : Text := sep.intercalate texts

end Text

end DsnBinding
