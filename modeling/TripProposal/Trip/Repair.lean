import TripProposal.Value.Literal

/-!
# Repairs

What is mended in a trip document before it is shown, and how each repair is reported.
-/

namespace TripProposal.Trip

/-- A repair of a trip document. -/
inductive Repair
  | activitiesDropped (day : Value) (count : Nat)
  | scheduleDropped (day : Value) (count : Nat)
  | lodgingDropped (day : Value)
  | dataCleared (booking : Nat) (field : Text)
  | cabinImagesMoved
  | noticeBlanked (blanked kept : Text)

/-- The report of a repair. -/
def Repair.message : Repair → Text
  | .activitiesDropped day count =>
    "Day " ++ day.inText ++ ": Removed " ++ Text.ofNat count ++ " emoji-only activity name(s)"
  | .scheduleDropped day count =>
    "Day " ++ day.inText ++ ": Removed " ++ Text.ofNat count ++ " emoji-only schedule item(s)"
  | .lodgingDropped day => "Day " ++ day.inText ++ ": Removed lodging with emoji-only name"
  | .dataCleared booking field =>
    "Booking #" ++ Text.ofNat booking ++ ": Cleared JSON in " ++ field ++
      " - use readable text instead"
  | .cabinImagesMoved => "Moved images.cabin to cruiseInfo.cabin.images (canonical location)"
  | .noticeBlanked blanked kept =>
    "Blanked " ++ blanked ++ ": repeats the self-booking notice in " ++ kept

end TripProposal.Trip
