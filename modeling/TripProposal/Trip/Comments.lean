import TripProposal.Text.Search
import TripProposal.Url.Percent
import TripProposal.Value.Literal

/-!
# Client comments

A proposal links to a thread of comments and shows how many there are. The count comes from
outside, so it may be any value; a label and a flag that are not given are derived from it.
-/

namespace TripProposal.Trip

open Text

/-! ### The thread -/

/-- The id of a trip: the last part of the key under which it is stored. -/
def tripIdOfKey (key : Text) : Text :=
  onString (afterLast '/') key

/-- The address of the comments on a trip. -/
def commentThread (endpoint tripId : Text) : Except NotEncodable Text :=
  let base := (endpoint.toList.reverse.dropWhile (· == .char '/')).reverse
  (Url.percentEncode Url.isUnreserved tripId.toList).map fun segment =>
    Text.ofList (base ++ "/trips/".codePoints ++ segment ++ "/comments".codePoints)

/-! ### The count -/

/-- What is known about the comments on a trip. -/
structure CommentSummary where
  count : Value := .int 0
  /-- Whether there are comments, `null` when not given. -/
  hasComments : Value := .null
  /-- Label of the number, `null` when not given. -/
  label : Value := .null

/-- The summary that is stored as these fields. -/
def CommentSummary.ofFields (fields : Fields) : CommentSummary where
  count := Value.filledOr (.int 0) (Fields.get? "commentCount" fields)
  hasComments := (Fields.get? "hasComments" fields).getD .null
  label := (Fields.get? "commentCountLabel" fields).getD .null

/-- A count that cannot be compared with zero. -/
structure CountNotNumeric where
  count : Value

/-- Whether a count is above zero. -/
def isAboveZero : Value → Except CountNotNumeric Bool
  | .bool b => .ok b
  | .int n => .ok (decide (0 < n))
  | .float x => .ok x.isPositive
  | other => .error ⟨other⟩

/-- The label of a count: one comment, or several. -/
def countLabel (count : Value) : Text :=
  if count.sameAs (.int 1) then "1 comment" else count.inText ++ " comments"

/-- The value, or another one for `null`. -/
def orDerived (given derived : Value) : Value :=
  if given.isNull then derived else given

/-- The fields that templates show of the comments. -/
def CommentSummary.toFields (s : CommentSummary) : Except CountNotNumeric Fields := do
  let derived ← if s.hasComments.isNull then isAboveZero s.count else .ok false
  return [("commentCount", s.count), ("hasComments", orDerived s.hasComments (.bool derived)),
    ("commentCountLabel", orDerived s.label (.text (countLabel s.count)))]

end TripProposal.Trip
