import TripProposal.Calendar.DayKey
import TripProposal.Calendar.Written
import TripProposal.Trip.DayType
import TripProposal.Value.Literal

/-!
# The timeline

A cruise describes the same days twice: the itinerary counts days of the trip, the ports count
days of the cruise. The timeline has one entry for every day of the itinerary. A port belongs to
the day of the same date, whatever the numbers of both; flights and hotels belong to the days
before and after the cruise.
-/

namespace TripProposal.Trip

open Text Calendar

/-! ### Dates -/

/-- The key of the day that a value names. -/
def dayKeyOf? (year : Int) (v : Option Value) : Option (List CodePoint) :=
  match v with
  | some (.text s) => dayKey? year s.toList
  | _ => none

/-- The year of dates that have none: the given one, or else the current one. No year is zero. -/
def yearOr (now : Moment) : Option Int → Int
  | none | some 0 => now.date.year
  | some year => year

/-- The key of the day that a value names, dates being of the given year or else of the current
one. -/
def dayKeyNow? (now : Moment) (year? : Option Int) (v : Option Value) : Option (List CodePoint) :=
  dayKeyOf? (yearOr now year?) v

/-- The year in which a trip starts. -/
def startYear? (trip : Fields) : Option Int :=
  match (Fields.get? "dates" trip).bind (·.field? "start") with
  | some (.text s) => (Moment.read? s.toList).map fun m => m.date.year
  | _ => none

/-- The year of dates that have none: that of the start of the trip, or else the current one. -/
def tripYear (now : Moment) (trip : Fields) : Int :=
  yearOr now (startYear? trip)

/-! ### What days are matched with -/

/-- The parts of a trip that its days are matched with. -/
structure Voyage where
  year : Int
  ports : List Fields
  hotelsBefore : List Fields
  hotelsAfter : List Fields
  flights : Fields
  cruise : Fields

/-- The ports in use: those of the trip, or else those of the cruise. -/
def portsInUse (trip : Fields) : List Fields :=
  match Value.objectsOf (Fields.get? "ports" trip) with
  | [] => Value.objectsOf (Fields.get? "ports" (Fields.objectAt "cruiseInfo" trip))
  | ports => ports

/-- Whether a stay belongs to the given type of day. -/
def isStayOf (type : DayType) (stay : Fields) : Bool :=
  (["type", "timing", "category"] : List Text).any fun key =>
    Value.lowered (Fields.get? key stay) == type.name

/-- What the days of a trip are matched with. -/
def Voyage.ofTrip (now : Moment) (trip : Fields) : Voyage where
  year := tripYear now trip
  ports := portsInUse trip
  hotelsBefore := (Value.objectsOf (Fields.get? "lodging" trip)).filter (isStayOf .preCruise)
  hotelsAfter := (Value.objectsOf (Fields.get? "lodging" trip)).filter (isStayOf .postCruise)
  flights := Fields.objectAt "flights" trip
  cruise := Fields.objectAt "cruiseInfo" trip

/-- The port of a day: the last one with its date. -/
def Voyage.portOn? (v : Voyage) (date : Option (List CodePoint)) : Option Fields :=
  date.bind fun day =>
    v.ports.reverse.find? fun port => dayKeyOf? v.year (Fields.get? "date" port) == some day

/-- Whether one of the stays is on a day. -/
def Voyage.staysOn (v : Voyage) (stays : List Fields) (date : Option (List CodePoint)) : Bool :=
  date.isSome && stays.any fun stay =>
    dayKeyOf? v.year (Value.firstFilled? ["dates", "date", "checkIn"] stay) == date

/-! ### Parts of an entry -/

/-- The fields whose values are there and not `null`. -/
def given (fields : List (Text × Option Value)) : Fields :=
  fields.filterMap fun (key, v) =>
    match v with
    | none | some .null => none
    | some v => some (key, v)

/-- What a timeline entry shows of a port. -/
def portFields (port : Fields) : Fields :=
  given [("name", portName? port), ("country", Fields.get? "country" port),
    ("arrival", Value.firstFilled? ["arrival", "arrive"] port),
    ("departure", Value.firstFilled? ["departure", "depart"] port),
    ("description", Fields.get? "description" port),
    ("highlights", Fields.get? "highlights" port)]

/-- The port of an entry with what it lacks taken from the port information of the day. -/
def fillPort (info port : Fields) : Fields :=
  let orElse := fun key found => ((Fields.get? key port).bind Value.filled?).orElse fun _ => found
  Fields.putAll
    (given [("name", orElse "name" (Value.firstFilled? ["name", "port"] info)),
      ("arrival", orElse "arrival" (Value.firstFilled? ["arrival", "arrive"] info)),
      ("departure", orElse "departure" (Value.firstFilled? ["departure", "depart"] info)),
      ("description", orElse "description" (Fields.get? "description" info))]) port

/-- The port of an entry, from the matched port and the port information of the day. -/
def portBlock? (port : Option Fields) (info : Option Value) : Option Fields :=
  match port, info with
  | none, some (.object info) => some (fillPort info [])
  | some port, some (.object info) => some (fillPort info (portFields port))
  | some port, _ => some (portFields port)
  | none, _ => none

/-- The items that are not the same as one of those before them, `seen` being before all. -/
def newItems (seen : List Value) : List Value → List Value
  | [] => []
  | item :: rest =>
    if seen.any item.sameAs then newItems seen rest
    else item :: newItems (seen ++ [item]) rest

/-- The highlights of a port followed by the new ones of the day. -/
def highlightsOf (port : Option Fields) (day : Fields) : List Value :=
  let ofPort := Fields.listAt "highlights" (port.getD [])
  ofPort ++ newItems ofPort (Fields.listAt "highlights" day)

/-- The fields of a day that an entry has unchanged. -/
def keptFields : List Text :=
  ["activities", "schedule", "dining", "tips", "shopping", "excursions", "cruiseInfo", "images",
   "videos", "map", "lodging"]

/-- Whether a value is there: not null, false or an empty text. -/
def isGiven (v : Value) : Bool :=
  match v with
  | .null | .bool false | .text "" => false
  | _ => true

/-- The fields that an entry takes over from its day. -/
def keptOf (day : Fields) : Fields :=
  keptFields.filterMap fun key =>
    ((Fields.get? key day).filter isGiven).map fun v => (key, v)

/-- The selected fields of a section as a field, if the section is an object. -/
def sectionField (name : Text) (keys : List Text) (fields : Fields) : Fields :=
  match Fields.get? name fields with
  | some (.object inner) =>
    [(name, .object (given (keys.map fun key => (key, Fields.get? key inner))))]
  | _ => []

/-- The flight of a day: its direction, and the fields of the booked flight. -/
def flightField (direction key : Text) (flights : Fields) : Fields :=
  match Fields.get? key flights with
  | some (.object flight) =>
    [("flight", .object (Fields.putAll flight [("type", .text direction)]))]
  | _ => []

/-- The hotel of a day. -/
def hotelField (stays : List Fields) : Fields :=
  (stays.head?.map fun stay => (("hotel" : Text), Value.object stay)).toList

/-- What an entry has because of its type. -/
def Voyage.typeFields (v : Voyage) : DayType → Fields
  | .embarkation => sectionField "embarkation" ["port", "time", "checkIn"] v.cruise
  | .debarkation => sectionField "debarkation" ["port", "time"] v.cruise
  | .preCruise => flightField "arrival" "outbound" v.flights ++ hotelField v.hotelsBefore
  | .postCruise => flightField "departure" "return" v.flights ++ hotelField v.hotelsAfter
  | _ => []

/-! ### Entries -/

/-- The words by which a day is classified. -/
def dayWords (port day : Fields) : Text :=
  Text.intercalate " " [Value.lowered (Fields.get? "description" port), Value.lowered (portName? port),
    Value.lowered (Value.firstFilled? ["title", "location"] day)]

/-- The date of a day. -/
def Voyage.dateOf? (v : Voyage) (day : Fields) : Option (List CodePoint) :=
  dayKeyOf? v.year (Fields.get? "date" day)

/-- The type of a day. -/
def Voyage.typeOf (v : Voyage) (day : Fields) : DayType :=
  let date := v.dateOf? day
  let port := (v.portOn? date).getD []
  let words := dayWords port day
  .of port words (v.staysOn v.hotelsBefore date || mentions arrivalWords words)
    (v.staysOn v.hotelsAfter date || mentions departureWords words)

/-- The number of a day, its position when it has none. -/
def dayNumber (position : Nat) (day : Fields) : Value :=
  (Fields.get? "day" day).getD (.int position)

/-- The title of a day: its own, that of its port, or its number. -/
def dayTitle (position : Nat) (port day : Fields) : Value :=
  match Value.firstFilled? ["title", "location"] day with
  | some title => title
  | none => (portName? port).getD (.text ("Day " ++ (dayNumber position day).inText))

/-- The entry of a day at a position of the itinerary. -/
def Voyage.entry (v : Voyage) (position : Nat) (day : Fields) : Fields :=
  let port := v.portOn? (v.dateOf? day)
  let type := v.typeOf day
  let shown : Fields :=
    [("dayNumber", dayNumber position day), ("dayType", .text type.name),
     ("isPreCruise", .bool (type == .preCruise)), ("isPostCruise", .bool (type == .postCruise)),
     ("title", dayTitle position (port.getD []) day),
     ("date", (Fields.get? "date" day).getD .null),
     ("description", (Fields.get? "description" day).getD .null)]
  let highlights : Fields := match highlightsOf port day with
    | [] => []
    | highlights => [("highlights", .list highlights)]
  shown ++ ((portBlock? port (Fields.get? "portInfo" day)).map fun port =>
    (("port" : Text), Value.object port)).toList ++ v.typeFields type ++ keptOf day ++ highlights

/-- The timeline of a trip. -/
def timeline (now : Moment) (trip : Fields) : List Value :=
  let voyage := Voyage.ofTrip now trip
  (Value.objectsOf (Fields.get? "itinerary" trip)).mapIdx fun index day =>
    .object (voyage.entry (index + 1) day)

end TripProposal.Trip
