import TripProposal.Profile
import TripProposal.Settings.Basic
import TripProposal.Trip.Comments
import TripProposal.Value.Lowered

/-!
# Configuration of a proposal

Templates do not look at settings or profiles but at the `_config` object of the document: what is
shown, who the agent is, and where comments and bookings go.
-/

namespace TripProposal.Trip

open Text

/-- Whether price tiers show: until the trip is confirmed, and when its phase is not known. -/
def showsTiers (details : Fields) : Bool :=
  Value.lowered (Fields.get? "phase" details) != "confirmed"

/-- Whether a flag is set to the given value. -/
def isFlag (b : Bool) (v : Option Value) : Bool :=
  match v with
  | some (.bool c) => b == c
  | _ => false

/-- The `meta` section of a trip, empty when it is missing or no object. -/
def tripDetails (trip : Fields) : Fields :=
  Fields.objectAt "meta" trip

/-- What a proposal is made for: a stored trip, an advisor and the comments on the trip. -/
structure Request where
  profile : Option Profile := none
  settings : Settings := .packaged
  tripKey : Text := ""
  comments : CommentSummary := {}

/-- Where the client can book: the trip's own address, or else the agency's. -/
def reserveUrl (trip : Fields) (profile : Option Profile) : Value :=
  Value.filledOr (Value.filledOr (.text "") (profile.map (·.agency.bookingUrl)))
    (Fields.get? "reserveUrl" (tripDetails trip))

/-- Why a proposal has no configuration. -/
inductive ConfigFault
  /-- The id of the trip has no bytes. -/
  | tripId (fault : NotEncodable)
  | commentCount (fault : CountNotNumeric)

/-- The configuration of a proposal. -/
def configFields (request : Request) (trip : Fields) : Except ConfigFault Fields := do
  let details := tripDetails trip
  let tripId := tripIdOfKey request.tripKey
  let thread ← (commentThread request.settings.apiEndpoint tripId).mapError .tripId
  let comments ← request.comments.toFields.mapError .commentCount
  let fields : Fields :=
    [("googleMapsApiKey", .text request.settings.mapsKey),
     ("showMaps", .bool (!isFlag false (Fields.get? "showMaps" details))),
     ("showVideos", .bool (!isFlag false (Fields.get? "showVideos" details))),
     ("showTiers", .bool (showsTiers details)),
     ("showTravelStyle", .bool (isFlag true (Fields.get? "showTravelStyle" details))),
     ("tripKey", .text request.tripKey),
     ("tripId", .text tripId),
     ("apiEndpoint", .text request.settings.apiEndpoint),
     ("commentThreadUrl", .text thread),
     ("reserveUrl", reserveUrl trip request.profile),
     ("agent", .object (agentFields request.profile))]
  return fields ++ comments

end TripProposal.Trip
