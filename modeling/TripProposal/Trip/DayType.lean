import TripProposal.Value.Lowered

/-!
# Types of days

A day of a cruise is classified by the port it is matched with and by the words of day and port.
Days before and after the cruise have no port.
-/

namespace TripProposal.Trip

open Text

/-- The type of a day. -/
inductive DayType
  | preCruise
  | postCruise
  | embarkation
  | debarkation
  | seaDay
  | portDay
  | cruise
deriving DecidableEq

/-- The name of a type of day. -/
def DayType.name : DayType → Text
  | preCruise => "pre-cruise"
  | postCruise => "post-cruise"
  | embarkation => "embarkation"
  | debarkation => "debarkation"
  | seaDay => "sea-day"
  | portDay => "port-day"
  | cruise => "cruise"

/-! ### Words -/

/-- The words of an arrival before the cruise. -/
def arrivalWords : List Text := ["arrive", "arrival"]

/-- The words of a departure after the cruise. -/
def departureWords : List Text := ["depart", "departure", "fly home"]

/-- The words of boarding. -/
def embarkationWords : List Text := ["embarkation", "embark day"]

/-- The words of leaving the ship. -/
def debarkationWords : List Text := ["debarkation", "disembark"]

/-- The words of a day at sea. -/
def seaWords : List Text := ["at sea", "cruising"]

/-- Whether one of the words occurs in a text. -/
def mentions (words : List Text) (text : Text) : Bool :=
  words.any fun word => holds word.toList text.toList

/-! ### Classification -/

/-- The name of a port. -/
def portName? (port : Fields) : Option Value :=
  Value.firstFilled? ["name", "port", "location"] port

/-- The type of a day that is matched with the fields of a port, none of them when there is no
port. The text is that of day and port in small letters. -/
def DayType.of (port : Fields) (text : Text) (isPre isPost : Bool) : DayType :=
  let type := Value.lowered (Fields.get? "type" port)
  let name := Value.lowered (portName? port)
  let isSet := fun key => (Fields.get? key port).any Value.isFilled
  if isPre && port.isEmpty then preCruise
  else if isPost && port.isEmpty then postCruise
  else if type == "embarkation" || isSet "isEmbarkation" || mentions embarkationWords text then
    embarkation
  else if type == "debarkation" || isSet "isDebarkation" || mentions debarkationWords text then
    debarkation
  else if type == "sea" || name == "at sea" || mentions seaWords text then seaDay
  else if name ≠ "" then portDay
  else cruise

end TripProposal.Trip
