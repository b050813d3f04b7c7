import TripProposal.Trip.Repair

/-!
# Images

An image is an address or an object with one. Two images with one address are the same image, so
lists are merged by address. Images of the cabin belong to the cabin of the ship and are moved
there when they stand elsewhere.
-/

namespace TripProposal.Trip

/-- A text that is not empty. -/
def address? : Option Value → Option Text
  | some (.text s) => if s = "" then none else some s
  | _ => none

/-- The address of an image: that of its full size where it is known, or else its own. -/
def imageAddress? (image : Value) : Option Text :=
  match image with
  | .object fields =>
    match address? ((Fields.get? "urls" fields).bind (·.field? "original")) with
    | some address => some address
    | none => address? (Fields.get? "url" fields)
  | v => address? (some v)

/-- The images with an address that is neither among `seen` nor that of an earlier one. -/
def unseenImages (seen : List Text) : List Value → List Value
  | [] => []
  | image :: rest =>
    match imageAddress? image with
    | some address =>
      if seen.contains address then unseenImages seen rest
      else image :: unseenImages (address :: seen) rest
    | none => unseenImages seen rest

/-- Images followed by those of a second list that are new. -/
def mergeImages (images more : List Value) : List Value :=
  images ++ unseenImages (images.filterMap imageAddress?) more

/-- The cruise with more images of its cabin. -/
def addCabinImages (images : List Value) (cruise : Fields) : Fields :=
  let cabin := Fields.objectAt "cabin" cruise
  Fields.put "cabin"
    (.object (Fields.put "images" (.list (mergeImages (Fields.listAt "images" cabin) images)) cabin))
    cruise

/-- The trip without its separate cabin images, and without images when nothing else is left. -/
def dropCabinImages (images trip : Fields) : Fields :=
  match Fields.erase "cabin" images with
  | [] => Fields.erase "images" trip
  | others => Fields.put "images" (.object others) trip

/-- A trip whose cabin images stand with the cabin. -/
def moveCabinImages (trip : Fields) : Fields × List Repair :=
  let images := Fields.objectAt "images" trip
  match Fields.get? "cabin" images with
  | some (.list cabinImages) =>
    let cruise := addCabinImages cabinImages (Fields.objectAt "cruiseInfo" trip)
    (dropCabinImages images (Fields.put "cruiseInfo" (.object cruise) trip), [.cabinImagesMoved])
  | _ => (trip, [])

end TripProposal.Trip
