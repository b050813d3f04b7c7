import TripProposal.Text.Case
import TripProposal.Text.Search
import TripProposal.Value.Basic

/-!
# Partner tours

Tours of the partner are stored per port under the slug of the port, next to a description of the
whole. Templates show them as a list of ports with readable names.
-/

namespace TripProposal.Trip

open Text

/-- A slug has to be taken apart at nothing. -/
structure EmptySeparator
deriving DecidableEq

/-- The pieces of a slug with capitals and blanks between them. -/
def capitalizedPieces (separator slug : List CodePoint) : List CodePoint :=
  List.intercalate [' '] ((splitOn separator slug).map capitalizeFirst)

/-- The readable form of a slug. -/
def titleOfSlug (separator slug : List CodePoint) : Except EmptySeparator (List CodePoint) :=
  if separator = [] then .error {} else .ok (capitalizedPieces separator slug)

/-- The readable name of a port's slug. -/
def portLabel (slug : Text) : Text :=
  onString (capitalizedPieces ['-']) slug

/-- The group of a port: its slug, its name and its tours. -/
def portGroup (slug : Text) (tours : List Value) : Value :=
  .object [("portKey", .text slug), ("portLabel", .text (portLabel slug)), ("tours", .list tours)]

/-- The group that an entry of the stored tours gives; only lists beside the description do. -/
def portGroup? (slug : Text) (v : Value) : Option Value :=
  match v with
  | .list tours => if slug = "description" then none else some (portGroup slug tours)
  | _ => none

/-- The groups of the ports in order. -/
def toursByPort (tours : Fields) : List Value :=
  tours.filterMap fun (slug, v) => portGroup? slug v

/-- The description of the tours, empty when it is not filled. -/
def toursDescription (tours : Fields) : Value :=
  Value.filledOr (.text "") (Fields.get? "description" tours)

/-- A trip with its tours grouped by port. -/
def groupTours (trip : Fields) : Fields :=
  match Fields.get? "viatorTours" trip with
  | some (.object tours) =>
    Fields.put "viatorToursDescription" (toursDescription tours)
      (Fields.put "viatorToursByPort" (.list (toursByPort tours)) trip)
  | _ => trip

end TripProposal.Trip
