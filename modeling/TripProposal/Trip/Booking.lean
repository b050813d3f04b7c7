import TripProposal.Calendar.Written
import TripProposal.Trip.Insurance
import TripProposal.Trip.Repair
import TripProposal.Value.Lowered
import TripProposal.Value.Number
import TripProposal.Value.Read

/-!
# Bookings

Bookings carry free-form type and status texts. Known ones have a label and an icon of their own,
others show their text with a capital. Every booking object of a trip is given the fields that
templates show: labels, a badge, the travelers as one text, and whether a balance is due.
-/

namespace TripProposal.Trip

open Text Number Calendar

/-! ### Types -/

/-- How the type of a booking shows. -/
structure BookingType where
  label : Text
  icon : Text
deriving DecidableEq

/-- The types with an icon of their own. -/
def bookingTypes : List (Text × BookingType) :=
  [("cruise", ⟨"Cruise", "🚢"⟩), ("insurance", ⟨"Insurance", "🛡️"⟩),
   ("flight", ⟨"Flight", "✈️"⟩), ("hotel", ⟨"Hotel", "🏨"⟩)]

/-- How a type in small letters shows. -/
def BookingType.ofKey (key : Text) : BookingType :=
  match bookingTypes.lookup key with
  | some known => known
  | none => ⟨if key = "" then "Booking" else onString capitalizeFirst key, "📌"⟩

/-- The key of a booking's type. -/
def typeKey (booking : Fields) : Text :=
  Value.lowered (Fields.get? "type" booking)

/-- Whether a booking is for insurance. -/
def isInsurance (booking : Fields) : Bool :=
  typeKey booking == "insurance"

/-! ### Statuses -/

/-- How the status of a booking shows. -/
structure BookingStatus where
  label : Text
  icon : Text
  className : Text
deriving DecidableEq

/-- Icon and label in one text, empty without a label. -/
def BookingStatus.badge (status : BookingStatus) : Text :=
  if status.label = "" then ""
  else Text.ofList (trim (status.icon.toList ++ .char ' ' :: status.label.toList))

/-- The statuses with an icon of their own. -/
def bookingStatuses : List (Text × BookingStatus) :=
  [("confirmed", ⟨"Confirmed", "✓", "confirmed"⟩), ("quoted", ⟨"Quoted", "⏳", "quoted"⟩),
   ("pending", ⟨"Pending", "⏳", "pending"⟩), ("cancelled", ⟨"Cancelled", "✗", "cancelled"⟩)]

/-- How a status in small letters shows. -/
def BookingStatus.ofKey (key : Text) : BookingStatus :=
  match bookingStatuses.lookup key with
  | some known => known
  | none => ⟨onString capitalizeFirst key, "", if key = "" then "pending" else key⟩

/-- The date until which a booking is held, in short form where it can be read. -/
def holdDate (v : Value) : Text :=
  if !v.isFilled then ""
  else match v with
    | .text s =>
      match Moment.read? s.toList with
      | some m => m.date.shortText
      | none => s
    | v => v.inText

/-- The status of a held booking, if it says until when. -/
def heldStatus? (booking : Fields) : Option BookingStatus :=
  (Value.firstFilled? ["holdExpires", "holdUntil", "expiresDate"] booking).map fun until_ =>
    ⟨"Held until " ++ holdDate until_, "⏳", "held"⟩

/-- How the status of a booking shows. Insurance of which the client still has to pick a plan
shows as options. -/
def BookingStatus.of (booking : Fields) : BookingStatus :=
  let key := Value.lowered (Fields.get? "status" booking)
  if isInsurance booking && (["", "quoted", "options_provided"] : List Text).contains key then
    ⟨"Options Provided", "📋", "quoted"⟩
  else if key = "held" then (heldStatus? booking).getD (.ofKey key)
  else .ofKey key

/-! ### Travelers -/

/-- The name of a traveler: a text, or the filled name of an object. -/
def travelerName? : Value → Option Text
  | .text s => if s = "" then none else some s
  | .object fields => ((Fields.get? "name" fields).bind Value.filled?).map Value.inText
  | _ => none

/-- The names in a list of travelers, separated by commas; nothing for other values. -/
def travelerNames : Value → Text
  | .list travelers => Text.intercalate ", " (travelers.filterMap travelerName?)
  | _ => ""

/-- The travelers of a booking as one text. A text that is no JSON is taken as it is. -/
def travelersText : Value → Text
  | .text s =>
    match Value.ofJson? s.toList with
    | some v => travelerNames v
    | none => s
  | v => travelerNames v

/-! ### Balance -/

/-- Whether a balance shows: positive numbers do, and everything else that is present. -/
def showsBalance (balance : Value) : Except Value.BeyondRange Bool :=
  balance.number?.map fun
    | some x => if x.isFinite then x.isPositive else !(x.isNaN && !balance.isText)
    | none =>
      match balance with
      | .null | .bool false => false
      | _ => true

/-! ### Augmented bookings -/

/-- The confirmation of a booking as it shows; one that is only quoted shows nothing. -/
def confirmationText (booking : Fields) : Text :=
  match Fields.get? "confirmation" booking with
  | some (.text s) => if onString lower s = "quote" then "" else s
  | _ => ""

/-- The fields that templates show of a booking, `showBalance` being decided already. -/
def bookingDisplay (plans : List Value) (showBalance : Bool) (booking : Fields) : Fields :=
  let type := BookingType.ofKey (typeKey booking)
  let status := BookingStatus.of booking
  [("typeLabel", .text type.label), ("typeIcon", .text type.icon),
   ("statusLabel", .text status.label), ("statusClass", .text status.className),
   ("statusBadge", .text status.badge), ("confirmationDisplay", .text (confirmationText booking)),
   ("travelersText", .text (travelersText ((Fields.get? "travelers" booking).getD .null))),
   ("showBalance", .bool showBalance), ("isInsurance", .bool (isInsurance booking)),
   ("insurancePlans", .list (if isInsurance booking then plans else []))]

/-- A booking with the fields that templates show, in place of its raw travelers. -/
def augmentBooking (plans : List Value) (booking : Fields) : Except Value.BeyondRange Fields :=
  (showsBalance ((Fields.get? "balance" booking).getD .null)).map fun showBalance =>
    Fields.putAll (bookingDisplay plans showBalance booking) (Fields.erase "travelers" booking)

/-- Bookings with the fields that templates show; what is no object stays. -/
def augmentAll (plans : List Value) : List Value → Except Value.BeyondRange (List Value)
  | [] => .ok []
  | .object booking :: rest => do
    let augmented ← augmentBooking plans booking
    return .object augmented :: (← augmentAll plans rest)
  | other :: rest => (augmentAll plans rest).map (other :: ·)

/-- A trip whose bookings have the fields that templates show. -/
def augmentBookings (trip : Fields) : Except Value.BeyondRange Fields :=
  match Fields.get? "bookings" trip with
  | some (.list bookings) =>
    (augmentAll (insurancePlans trip) bookings).map fun augmented =>
      Fields.put "bookings" (.list augmented) trip
  | _ => .ok trip

/-! ### Pasted data -/

/-- A booking with a field blanked if it holds data instead of prose. -/
def clearField (number : Nat) (key : Text) (booking : Fields) : Fields × List Repair :=
  match Fields.get? key booking with
  | some (.text s) =>
    if Value.looksLikeJson s then
      (Fields.put key (.text "") booking, [.dataCleared number key])
    else (booking, [])
  | _ => (booking, [])

/-- A booking whose details and notes hold no data. -/
def clearBooking (number : Nat) (booking : Fields) : Fields × List Repair :=
  let (booking, details) := clearField number "details" booking
  let (booking, notes) := clearField number "notes" booking
  (booking, details ++ notes)

/-- Bookings whose details and notes hold no data, `number` being the number of the first. -/
def clearAll (number : Nat) : List Value → List Value × List Repair
  | [] => ([], [])
  | .object booking :: rest =>
    (.object (clearBooking number booking).1 :: (clearAll (number + 1) rest).1,
      (clearBooking number booking).2 ++ (clearAll (number + 1) rest).2)
  | other :: rest => (other :: (clearAll (number + 1) rest).1, (clearAll (number + 1) rest).2)

/-- A trip whose bookings have no data in details and notes. -/
def clearPastedData (trip : Fields) : Fields × List Repair :=
  match Fields.get? "bookings" trip with
  | some (.list bookings) =>
    (Fields.put "bookings" (.list (clearAll 1 bookings).1) trip, (clearAll 1 bookings).2)
  | _ => (trip, [])

end TripProposal.Trip
