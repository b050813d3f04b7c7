import TripProposal.Text.Alphanumeric
import TripProposal.Trip.Repair

/-!
# Itinerary days

Editing by conversation leaves entries whose visible text is nothing but emoji. A day keeps its
entries that have a letter or digit; the others are dropped and reported.
-/

namespace TripProposal.Trip

open Text

/-- Whether a text has a letter or digit. -/
def isWorded (s : Text) : Bool :=
  s.toList.any isAlphanumeric

/-- Whether a value is a text with a letter or digit. -/
def isWordedText (v : Option Value) : Bool :=
  match v with
  | some (.text s) => isWorded s
  | _ => false

/-- Whether an activity has something to read: a worded name, or else a worded description. -/
def activityIsWorded (activity : Value) : Bool :=
  isWordedText (activity.field? "name") ||
    (activity.field? "description").any fun v => v.isFilled && isWorded v.inText

/-- Whether a schedule item has something to read. -/
def scheduleItemIsWorded (item : Value) : Bool :=
  isWordedText (item.field? "activity")

/-- The fields of a day with only those items in a list that pass a test. Dropped items are
reported. -/
def keepItems (key : Text) (test : Value → Bool) (report : Nat → Repair) (day : Fields) :
    Fields × List Repair :=
  match Fields.get? key day with
  | some (.list items) =>
    let kept := items.filter test
    (Fields.put key (.list kept) day,
      if kept.length = items.length then [] else [report (items.length - kept.length)])
  | _ => (day, [])

/-- The fields of a day without lodging that has no worded name. -/
def keepLodging (report : Repair) (day : Fields) : Fields × List Repair :=
  match Fields.get? "lodging" day with
  | some (.object lodging) =>
    if isWordedText (Fields.get? "name" lodging) then (day, [])
    else (Fields.erase "lodging" day, [report])
  | _ => (day, [])

/-- A day without entries that cannot be read. -/
def sanitizeDay (day : Fields) : Fields × List Repair :=
  let name := (Fields.get? "day" day).getD .null
  let (day, activities) := keepItems "activities" activityIsWorded (.activitiesDropped name) day
  let (day, schedule) := keepItems "schedule" scheduleItemIsWorded (.scheduleDropped name) day
  let (day, lodging) := keepLodging (.lodgingDropped name) day
  (day, activities ++ schedule ++ lodging)

/-- The days of an itinerary without entries that cannot be read; what is no object stays. -/
def sanitizeDays : List Value → List Value × List Repair
  | [] => ([], [])
  | .object day :: rest =>
    (.object (sanitizeDay day).1 :: (sanitizeDays rest).1,
      (sanitizeDay day).2 ++ (sanitizeDays rest).2)
  | other :: rest => (other :: (sanitizeDays rest).1, (sanitizeDays rest).2)

/-- A trip whose days have no entries that cannot be read. -/
def sanitizeItinerary (trip : Fields) : Fields × List Repair :=
  match Fields.get? "itinerary" trip with
  | some (.list days) =>
    (Fields.put "itinerary" (.list (sanitizeDays days).1) trip, (sanitizeDays days).2)
  | _ => (trip, [])

end TripProposal.Trip
