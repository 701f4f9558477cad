import DsnBinding.OrderedMap
import DsnBinding.Text

/-!
Query parameters. The first question mark ends the path; the query after it is a sequence of pairs
between ampersands, each cut at its first equals sign. Empty pairs are skipped, a repeated key takes
its last value, and nothing is decoded, so joining the pairs of a query again gives a query with the
same parameters.
-/
namespace DsnBinding

abbrev Query := OrderedMap Text Text

namespace Query

/-- The key and the value of one pair; a pair without equals sign has the empty value. -/
def pairOf (piece : Text) : Text × Text := (piece.before '=', piece.after '=')

def pairsOf (text : Text) : List (Text × Text) :=
  ((text.splitOn '&').filter (!·.isEmpty)).map pairOf

def parse (text : Text) : Query := .ofList (pairsOf text)

/-- The path before the first question mark, and the parameters after it. -/
def extract (text : Text) : Text × Query := (text.before '?', parse (text.after '?'))

def renderPair (pair : Text × Text) : Text := pair.1 ++ '=' :: pair.2

def renderPairs (pairs : List (Text × Text)) : Text := Text.joined ['&'] (pairs.map renderPair)

def render (query : Query) : Text := renderPairs query.entries

end Query

end DsnBinding
