import TripProposal.Number.Reading
import TripProposal.Value.Basic

/-!
# Values as numbers

Numbers and texts that spell a number count as numbers, a blank text as zero. Flags and all other
values do not.
-/

namespace TripProposal.Value

open Text Number

/-- Why a value has no number although it should: it is a whole number beyond the range of
floating-point numbers. -/
structure BeyondRange where
  amount : Int
deriving DecidableEq

/-- The number of a value. -/
def number? : Value → Except BeyondRange (Option Binary64)
  | .int n =>
    match Binary64.ofInt? n with
    | some x => .ok (some x)
    | none => .error ⟨n⟩
  | .float x => .ok (some x)
  | .text s =>
    if isAllBlank s.toList then .ok (some .zero) else .ok (Number.read? (trim s.toList))
  | _ => .ok none

end TripProposal.Value
