import TripProposal.Text.CodePoint

/-!
# Faults of rendering

Rendering forgives almost everything. What remains are texts that look like numbers and are none,
amounts and counts that are too large, and templates whose data unfold without end.
-/

namespace TripProposal.Template

/-- Why rendering can fail. -/
inductive Fault
  /-- A path segment on a list looks like a number and is none. -/
  | notAnIndex (segment : List CodePoint)
  | separatorBeforeAmount
  /-- The whole dollars of an amount have more digits than can be written. -/
  | amountTooLong
  | countTooLarge
  /-- A text that is to be part of a URL has no bytes. -/
  | notEncodable (text : List CodePoint)
  | tooDeep
deriving DecidableEq

end TripProposal.Template
