import TripProposal.Text.Search
import TripProposal.Url.Percent

/-!
# Query strings

The query of a URL as a list of named values: pairs joined by `&`, name and value by `=`, spaces
written as `+` and other unsafe characters escaped.
-/

namespace TripProposal.Url

open Text

/-- A query: names and values in order. Names may repeat. -/
abbrev Query := List (List CodePoint × List CodePoint)

/-- A name or value in its written form. -/
def encodeField (text : List CodePoint) : Except NotEncodable (List CodePoint) :=
  (percentEncode (fun c => isUnreserved c || c == ' ') text).map
    (·.map fun c : CodePoint => if c = ' ' then '+' else c)

/-- A written name or value. -/
def decodeField (text : List CodePoint) : List CodePoint :=
  percentDecode (text.map fun c : CodePoint => if c = '+' then ' ' else c)

/-- Read a query. Empty stretches between separators hold no pair; a pair without `=` has an empty
value. -/
def Query.parse (text : List CodePoint) : Query :=
  ((splitAtMark '&' text).filter (!·.isEmpty)).map fun pair =>
    (decodeField (cutAt '=' pair).1, decodeField (cutAt '=' pair).2)

/-- A pair in its written form. -/
def printPair (pair : List CodePoint × List CodePoint) : Except NotEncodable (List CodePoint) := do
  return (← encodeField pair.1) ++ .char '=' :: (← encodeField pair.2)

/-- Write a query. -/
def Query.print (query : Query) : Except NotEncodable (List CodePoint) :=
  (query.mapM printPair).map (List.intercalate ['&'])

end TripProposal.Url
