import TripProposal.Value.Lowered

/-!
# Recommended extras

Extras have a priority that decides their badge and their order. Extras of one priority keep the
order in which they were written.
-/

namespace TripProposal.Trip

/-- Priority of a recommended extra, the most urgent first. -/
inductive Priority
  | high
  | recommended
  /-- The priority of extras that name none. -/
  | medium
  | splurge
deriving DecidableEq

namespace Priority

/-- Name of a priority. -/
def name : Priority → Text
  | high => "high"
  | recommended => "recommended"
  | medium => "medium"
  | splurge => "splurge"

/-- Text on the badge of an extra. -/
def badge : Priority → Text
  | high => "Popular"
  | recommended => "Agent Recommended"
  | medium => "Recommended"
  | splurge => "Upgrade"

/-- Place of a priority in the order. -/
def rank : Priority → Nat
  | high => 0
  | recommended => 1
  | medium => 2
  | splurge => 3

/-- All priorities in order. -/
def all : List Priority := [high, recommended, medium, splurge]

/-- The priority that a value names in any letter case; other values are of medium priority. -/
def ofValue (v : Option Value) : Priority :=
  (all.find? fun p => p.name == Value.lowered v).getD medium

end Priority

/-- The priority of an extra; what is no object is of medium priority. -/
def priorityOf (extra : Value) : Priority :=
  .ofValue (extra.field? "priority")

/-- An extra with the fields that its priority decides. -/
def withPriority : Value → Value
  | .object extra =>
    let priority := Priority.ofValue (Fields.get? "priority" extra)
    .object (Fields.putAll
      [("priority", .text priority.name), ("priorityClass", .text priority.name),
       ("badgeLabel", .text priority.badge)] extra)
  | other => other

/-- Extras in the order of their priorities. -/
def rankExtras (extras : List Value) : List Value :=
  (extras.map withPriority).mergeSort fun a b => (priorityOf a).rank ≤ (priorityOf b).rank

/-- A trip whose recommended extras are in the order of their priorities. -/
def rankRecommendedExtras (trip : Fields) : Fields :=
  match Fields.get? "recommendedExtras" trip with
  | some (.list extras) => Fields.put "recommendedExtras" (.list (rankExtras extras)) trip
  | _ => trip

end TripProposal.Trip
