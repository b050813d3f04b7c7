import TripProposal.Text.Search
import TripProposal.Value.Basic

/-!
# Dotted paths

A dotted path such as `meta.selfBookingNote` names a field inside nested objects. Reading gives
`null` as soon as a step is missing; writing changes a document only where the objects on the way
are there already. Paths do not lead into lists.
-/

namespace TripProposal.Value

open Text

/-- The keys of a dotted path, never empty. -/
def pathKeys (path : Text) : List Text :=
  (splitAtMark '.' path.toList).map Text.ofList

/-- The value at the end of a path. -/
def atPath : List Text → Value → Value
  | [], v => v
  | key :: rest, v => atPath rest (v.fieldOrNull key)

/-- The value with a new value at the end of a path. -/
def putAtPath (new : Value) : List Text → Value → Value
  | key :: rest, .object fields =>
    match rest, Fields.get? key fields with
    | [], _ => .object (Fields.put key new fields)
    | _, some inner => .object (Fields.put key (putAtPath new rest inner) fields)
    | _, none => .object fields
  | _, v => v

end TripProposal.Value
