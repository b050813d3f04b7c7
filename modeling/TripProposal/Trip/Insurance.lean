import TripProposal.Value.Basic

/-!
# Travel insurance

The plans that a trip offers stand under `plans` or `options` of its `travelInsurance` section.
When none of at least two options is recommended, the middle one is.
-/

namespace TripProposal.Trip

/-- The fields of the insurance section. -/
def insuranceSection (trip : Fields) : Fields :=
  Fields.objectAt "travelInsurance" trip

/-- Whether the plans that a trip offers are its options, because it has no separate plans. -/
def offersOptions (trip : Fields) : Bool :=
  match Fields.get? "plans" (insuranceSection trip), Fields.get? "options" (insuranceSection trip) with
  | some (.list _), _ => false
  | _, some (.list _) => true
  | _, _ => false

/-- The plans that a trip offers. -/
def insurancePlans (trip : Fields) : List Value :=
  match Fields.get? "plans" (insuranceSection trip), Fields.get? "options" (insuranceSection trip) with
  | some (.list plans), _ => plans
  | _, some (.list options) => options
  | _, _ => []

/-- Whether an option is recommended. -/
def isRecommended (option : Value) : Bool :=
  (option.field? "recommended").any Value.isFilled

/-- The options with the middle one recommended, if there are two, none is recommended yet and
the middle one is an object. -/
def recommendMiddle? (options : List Value) : Option (List Value) :=
  if options.length < 2 || options.any isRecommended then none
  else
    match options[options.length / 2]? with
    | some (.object middle) =>
      some (options.set (options.length / 2) (.object (Fields.put "recommended" (.bool true) middle)))
    | _ => none

/-- The trip with the middle option of its insurance recommended, if that applies. -/
def recommendInsurance? (trip : Fields) : Option Fields :=
  match Fields.get? "options" (insuranceSection trip) with
  | some (.list options) =>
    (recommendMiddle? options).map fun options =>
      Fields.put "travelInsurance"
        (.object (Fields.put "options" (.list options) (insuranceSection trip))) trip
  | _ => none

end TripProposal.Trip
