import TripProposal.Text.Case
import TripProposal.Text.Search
import TripProposal.Url.Tracking

/-!
# Tracking the links of a trip

The links of a trip to the tour partner are tracked where they stand: tours, excursions,
recommended extras, and the activities and excursions of the itinerary days. Each walk gives the
document with its new links and the number of links that changed.
-/

namespace TripProposal.Trip

open Text

/-- A walk through part of a document: the fault that ended it, or what it yields and the number
of links that it changed. -/
def Tagging (α : Type) : Type := Except LinkFault (α × Nat)

namespace Tagging

variable {α β : Type}

/-- A walk that changes nothing. -/
def unchanged (a : α) : Tagging α := Except.ok (a, 0)

/-- A walk that changes one link. -/
def changed (a : α) : Tagging α := Except.ok (a, 1)

/-- A walk that only looks. -/
def look (found : Except LinkFault α) : Tagging α := found.map fun a => (a, 0)

/-- One walk after the other; the changes add up. -/
def andThen (walk : Tagging α) (next : α → Tagging β) : Tagging β :=
  match walk with
  | .error fault => .error fault
  | .ok (a, m) =>
    match next a with
    | .error fault => .error fault
    | .ok (b, n) => .ok (b, m + n)

instance : Monad Tagging where
  pure := unchanged
  bind := andThen

end Tagging

/-! ### Walking -/

/-- Walk the objects of a list. -/
def onObjects (f : Fields → Tagging Fields) : List Value → Tagging (List Value)
  | [] => .unchanged []
  | .object fields :: rest => do
    let fields ← f fields
    return .object fields :: (← onObjects f rest)
  | other :: rest => do
    return other :: (← onObjects f rest)

/-- Walk the objects of the list under a key; other values stay. -/
def onListAt (key : Text) (f : Fields → Tagging Fields) (fields : Fields) : Tagging Fields :=
  match Fields.get? key fields with
  | some (.list items) => do
    return Fields.put key (.list (← onObjects f items)) fields
  | _ => .unchanged fields

/-! ### Links -/

/-- Who gets the credit for links, and which links count. -/
structure Tracker where
  partner : Partner
  codes : AffiliateCodes

/-- Whether a link counts as changed: a text that became another one, and a NaN, which never
equals itself. -/
def countsAsChanged (tracked link : Value) : Bool :=
  match tracked, link with
  | .text s, .text t => s != t
  | .float x, _ => x.isNaN
  | _, _ => false

/-- Track the link under a key. -/
def Tracker.tagLink (t : Tracker) (key : Text) (fields : Fields) : Tagging Fields :=
  match Fields.get? key fields with
  | none => .unchanged fields
  | some link => do
    let tracked ← .look (t.partner.trackValue t.codes link)
    if countsAsChanged tracked link then .changed (Fields.put key tracked fields)
    else .unchanged fields

/-- Whether an excursion names the partner as its provider. -/
def isProvidedBy (partner : Partner) (excursion : Fields) : Bool :=
  (match Fields.get? "provider" excursion with
   | some (.text s) => onString lower s == partner.name
   | _ => false) ||
    (Fields.get? "providerType" excursion).bind Value.text? == some partner.name

/-- Track the link of an excursion that is the partner's by provider or by address. -/
def Tracker.tagExcursion (t : Tracker) (excursion : Fields) : Tagging Fields :=
  if isProvidedBy t.partner excursion then t.tagLink "url" excursion
  else do
    let link := (Fields.get? "url" excursion).getD .null
    if ← .look (t.partner.isPartnerLink link) then t.tagLink "url" excursion
    else .unchanged excursion

/-- Track the links of a tour. -/
def Tracker.tagTour (t : Tracker) (tour : Fields) : Tagging Fields := do
  t.tagLink "bookingUrl" (← t.tagLink "url" tour)

/-- Track the tours of every port; the description is no port. -/
def Tracker.tagPorts (t : Tracker) : List (Text × Value) → Tagging (List (Text × Value))
  | [] => .unchanged []
  | (port, .list tours) :: rest => do
    let tours ← if port = "description" then .unchanged tours else onObjects t.tagTour tours
    return (port, .list tours) :: (← t.tagPorts rest)
  | other :: rest => do
    return other :: (← t.tagPorts rest)

/-- Track the tours of a trip. -/
def Tracker.tagTours (t : Tracker) (trip : Fields) : Tagging Fields :=
  match Fields.get? "viatorTours" trip with
  | some (.object tours) => do
    return Fields.put "viatorTours" (.object (← t.tagPorts tours)) trip
  | _ => .unchanged trip

/-- Track the links of a day. -/
def Tracker.tagDay (t : Tracker) (day : Fields) : Tagging Fields := do
  let day ← onListAt "activities" (t.tagLink "url") day
  onListAt "excursions" t.tagExcursion day

/-- Track all links of a trip. -/
def Tracker.tagTrip (t : Tracker) (trip : Fields) : Tagging Fields := do
  let trip ← t.tagTours trip
  let trip ← onListAt "excursions" t.tagExcursion trip
  let trip ← onListAt "recommendedExtras" (t.tagLink "url") trip
  onListAt "itinerary" t.tagDay trip

/-- Track all links of a trip for an advisor, if there is one with a code. -/
def trackLinks (partner : Partner) (codes : Option AffiliateCodes) (trip : Fields) :
    Tagging Fields :=
  match codes with
  | some codes =>
    if codes.partnerId.isFilled then (Tracker.mk partner codes).tagTrip trip
    else .unchanged trip
  | none => .unchanged trip

end TripProposal.Trip
