import TripProposal.Text.Case
import TripProposal.Text.Search
import TripProposal.Value.Basic

/-!
# Texts in any letter case

Free-form texts of a trip are compared without regard to letter case.
-/

namespace TripProposal.Value

open Text

/-- A text in small letters, empty for other values. -/
def lowered (v : Option Value) : Text :=
  match v with
  | some (.text s) => onString lower s
  | _ => ""

end TripProposal.Value
