import TripProposal.Log
import TripProposal.Trip.Config
import TripProposal.Trip.Notices
import TripProposal.Trip.Timeline

/-!
# Normalizing a trip

A raw trip document becomes the document that templates show. Entries that cannot be read are
dropped, pasted data is cleared and images are moved to their place; links are tracked; bookings,
extras and tours get the fields that templates show; repeated notices are blanked and an insurance
option is recommended. Timeline and configuration come last, because they show all of this.
-/

namespace TripProposal.Trip

/-- Why a trip cannot be normalized. -/
inductive NormalizeFault
  | notAnObject
  | link (fault : LinkFault)
  | balance (fault : Value.BeyondRange)
  | config (fault : ConfigFault)

/-- A normalized trip. -/
structure Normalized where
  data : Fields
  repairs : List Repair
  workspace : Workspace

/-! ### Reports -/

/-- A report about the intake of a trip. -/
def intakeNote (level : LogLevel) (message : Text) : LogEntry :=
  ⟨level, "[intake] " ++ message⟩

/-- The name of a trip in reports: its key, the client's name, or nothing special. A document that
is no object has no name of its own. -/
def tripLabel? (key : Text) (trip : Value) : Option Text :=
  if key ≠ "" then some key
  else match trip with
    | .object trip =>
      match Value.filled? ((Fields.get? "clientName" (tripDetails trip)).getD .null) with
      | some name => some name.inText
      | none => some "trip"
    | _ => none

/-- The report of tracked links. -/
def trackingNotes (label : Text) (count : Nat) : Log :=
  if count = 0 then []
  else [intakeNote .debug (label ++ ": added affiliate tracking to " ++ Text.ofNat count ++ " link(s)")]

/-- The report of a recommended insurance option. -/
def recommendationNotes (label : Text) (marked : Bool) : Log :=
  if marked then [intakeNote .debug (label ++ ": marked middle insurance option as recommended")]
  else []

/-- The reports of repairs. -/
def repairNotes (label : Text) (repairs : List Repair) : Log :=
  if repairs.isEmpty then [intakeNote .debug (label ++ ": normalized without repairs")]
  else
    intakeNote .warning
        (label ++ ": " ++ Text.ofNat repairs.length ++ " repair(s) during normalization") ::
      repairs.map fun repair => intakeNote .warning ("  " ++ repair.message)

/-- The report of the end. -/
def completionNote (label : Text) : LogEntry :=
  intakeNote .debug (label ++ ": normalized in 0.000s")

/-! ### The steps -/

/-- The document that templates show of a trip. -/
def shownDocument (now : Calendar.Moment) (config trip : Fields) : Fields :=
  Fields.putAll [("unifiedTimeline", .list (timeline now trip)), ("_config", .object config)] trip

/-- Normalize the trip of a workspace that reports call `label`. -/
def Workspace.normalize (request : Request) (matcher : NoticeMatcher) (now : Calendar.Moment)
    (label : Text) (w : Workspace) : Logged NormalizeFault Normalized := do
  let (w, droppedEntries) := w.change sanitizeItinerary
  let (w, clearedData) := w.change clearPastedData
  let (w, movedImages) := w.change moveCabinImages
  let (w, tracked) ← .ofExcept
    ((w.trackLinks request.settings.partner (request.profile.map (·.affiliates))).mapError .link)
  .report (trackingNotes label tracked)
  let w ← .ofExcept (w.augmentBookings.mapError .balance)
  let (w, _) := w.change fun trip => (rankRecommendedExtras trip, ())
  let (w, blankedNotices) := blankNotices matcher w.groupTours request.settings.noticePairs
  let (w, marked) := w.recommendInsurance
  .report (recommendationNotes label marked)
  let config ← .ofExcept ((configFields request w.trip).mapError .config)
  let repairs := droppedEntries ++ clearedData ++ movedImages ++ blankedNotices
  .report (repairNotes label repairs ++ [completionNote label])
  return ⟨shownDocument now config w.trip, repairs, w⟩

/-- Normalize a trip document. -/
def normalize (request : Request) (matcher : NoticeMatcher) (now : Calendar.Moment)
    (document : Value) : Logged NormalizeFault Normalized :=
  match document, tripLabel? request.tripKey document with
  | .object trip, some label => Workspace.normalize request matcher now label ⟨trip, false, [], false⟩
  | _, _ => .error .notAnObject

end TripProposal.Trip
