import TripProposal.Trip.Booking
import TripProposal.Trip.Extras
import TripProposal.Trip.Images
import TripProposal.Trip.Itinerary
import TripProposal.Trip.Tours
import TripProposal.Trip.Tracking
import TripProposal.Value.Path

/-!
# Workspaces

While a trip is worked on, some of its fields are views of others: the plans of insurance bookings
show the options of the insurance section, the tours grouped by port show the stored tours, and
the description beside them shows the stored description. A workspace knows which views are live
and brings them up to date with every change of what they show. A view stops being live when it or
what it shows is replaced as a whole.
-/

namespace TripProposal.Trip

/-- A trip that is worked on, with its live views. -/
structure Workspace where
  trip : Fields
  /-- Whether the plans of insurance bookings show the insurance options. -/
  plansLive : Bool := false
  /-- The ports whose grouped tours show the stored tours. -/
  portsLive : List Text := []
  /-- Whether the description of the tours shows the stored object. -/
  descriptionLive : Bool := false

namespace Workspace

/-! ### Bringing views up to date -/

/-- A booking whose plans are those given, if it is for insurance. -/
def showPlans (plans : List Value) : Value → Value
  | .object booking =>
    if isInsurance booking then .object (Fields.put "insurancePlans" (.list plans) booking)
    else .object booking
  | other => other

/-- The workspace with its live plans up to date. -/
def refreshPlans (w : Workspace) : Workspace :=
  match w.plansLive, Fields.get? "bookings" w.trip,
      Fields.get? "options" (insuranceSection w.trip) with
  | true, some (.list bookings), some (.list options) =>
    { w with trip := Fields.put "bookings" (.list (bookings.map (showPlans options))) w.trip }
  | _, _, _ => w

/-- The group of a port with its stored tours, if it is live. -/
def showTours (ports : List Text) (tours : Fields) (group : Value) : Value :=
  match group with
  | .object fields =>
    match Fields.get? "portKey" fields with
    | some (.text port) =>
      match ports.contains port, Fields.get? port tours with
      | true, some stored => .object (Fields.put "tours" stored fields)
      | _, _ => group
    | _ => group
  | other => other

/-- The workspace with its live groups of tours up to date. -/
def refreshTours (w : Workspace) : Workspace :=
  match Fields.get? "viatorToursByPort" w.trip with
  | some (.list groups) =>
    let shown := groups.map (showTours w.portsLive (Fields.objectAt "viatorTours" w.trip))
    { w with trip := Fields.put "viatorToursByPort" (.list shown) w.trip }
  | _ => w

/-! ### Steps -/

/-- Change the trip in a way that no view shows, with what was done. -/
def change {α : Type} (f : Fields → Fields × α) (w : Workspace) : Workspace × α :=
  ({ w with trip := (f w.trip).1 }, (f w.trip).2)

/-- Track the links of the trip; the number of changed links is given. -/
def trackLinks (partner : Partner) (codes : Option AffiliateCodes) (w : Workspace) :
    Except LinkFault (Workspace × Nat) :=
  match Trip.trackLinks partner codes w.trip with
  | .ok (trip, changed) => .ok (refreshTours { w with trip := trip }, changed)
  | .error fault => .error fault

/-- Give the bookings the fields that templates show. -/
def augmentBookings (w : Workspace) : Except Value.BeyondRange Workspace :=
  (Trip.augmentBookings w.trip).map fun trip =>
    match Fields.get? "bookings" w.trip with
    | some (.list _) => { w with trip := trip, plansLive := offersOptions w.trip }
    | _ => w

/-- Group the tours by port. -/
def groupTours (w : Workspace) : Workspace :=
  match Fields.get? "viatorTours" w.trip with
  | some (.object tours) =>
    { w with
      trip := Trip.groupTours w.trip
      portsLive := (tours.filter fun (port, v) => (portGroup? port v).isSome).map (·.1)
      descriptionLive := (toursDescription tours).isObject }
  | _ => w

/-- Recommend the middle insurance option if that applies; whether it did is given. -/
def recommendInsurance (w : Workspace) : Workspace × Bool :=
  match recommendInsurance? w.trip with
  | some trip => (refreshPlans { w with trip := trip }, true)
  | none => (w, false)

/-! ### Paths -/

/-- The stored description of the tours, as a path. -/
def storedDescription : List Text := ["viatorTours", "description"]

/-- The description beside the grouped tours, as a path. -/
def shownDescription : List Text := ["viatorToursDescription"]

/-- Whether a path leads below another one. -/
def isBelow (path top : List Text) : Bool :=
  top.isPrefixOf path && path != top

/-- The trip with the value at one path copied to another one. -/
def copyPath (source target : List Text) (trip : Value) : Value :=
  .putAtPath (trip.atPath source) target trip

/-- The views that stay live when the value at a path is replaced. -/
def afterReplacing (path : List Text) (w : Workspace) : Workspace where
  trip := w.trip
  plansLive :=
    w.plansLive && path ∉
      ([["bookings"], ["travelInsurance"], ["travelInsurance", "options"]] : List (List Text))
  portsLive :=
    if path = [("viatorTours" : Text)] ∨ path = [("viatorToursByPort" : Text)] then []
    else w.portsLive.filter fun port => path ≠ [("viatorTours" : Text), port]
  descriptionLive :=
    w.descriptionLive && path ∉ [[("viatorTours" : Text)], storedDescription, shownDescription]

/-- Replace the value at a path. A live description takes part in changes of what it shows. -/
def putAtPath (path : List Text) (new : Value) (w : Workspace) : Workspace :=
  let w := w.afterReplacing path
  let trip := Value.putAtPath new path (.object w.trip)
  let trip :=
    if w.descriptionLive && isBelow path storedDescription then
      copyPath storedDescription shownDescription trip
    else if w.descriptionLive && isBelow path shownDescription then
      copyPath shownDescription storedDescription trip
    else trip
  { w with trip := trip.fields?.getD w.trip }

end Workspace

end TripProposal.Trip
