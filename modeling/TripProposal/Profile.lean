import TripProposal.Value.Basic

/-!
# Advisor profiles

The profile of the travel advisor behind a proposal. Stored profiles are loose, so every entry is
kept as the value that was stored; a missing section counts as an empty one.
-/

namespace TripProposal

/-- The agency an advisor works for. -/
structure Agency where
  name : Value
  franchise : Value
  logo : Value
  website : Value
  bookingUrl : Value

/-- Colours of the proposal. -/
structure Branding where
  primaryColor : Value
  accentColor : Value

/-- Codes that attribute a link to the advisor. -/
structure AffiliateCodes where
  /-- Code of the advisor; without one nothing is attributed. -/
  partnerId : Value
  campaignId : Value

/-- The plan that an advisor pays for. -/
structure Subscription where
  tier : Value
  status : Value

/-- An advisor's profile. -/
structure Profile where
  name : Value
  email : Value
  phone : Value
  agency : Agency
  branding : Branding
  affiliates : AffiliateCodes
  template : Value
  subscription : Subscription

/-! ### Stored profiles -/

/-- A field as it is stored, a missing one counting as `null`. -/
def storedAs (key : Text) (fields : Fields) : Value :=
  (Fields.get? key fields).getD .null

/-- The codes in a stored section. They stand in a section of their own for the partner, or
directly in the section when that is missing or empty. -/
def AffiliateCodes.ofFields (fields : Fields) : AffiliateCodes :=
  let partner := match Fields.objectAt "viator" fields with
    | [] => fields
    | inner => inner
  ⟨storedAs "partnerId" partner, storedAs "campaignId" partner⟩

/-- The profile that is stored as these fields. -/
def Profile.ofFields (fields : Fields) : Profile where
  name := Value.filledOr (.text "") (Fields.get? "name" fields)
  email := storedAs "email" fields
  phone := storedAs "phone" fields
  agency :=
    let agency := Fields.objectAt "agency" fields
    { name := Value.filledOr (.text "") (Fields.get? "name" agency)
      franchise := storedAs "franchise" agency
      logo := storedAs "logo" agency
      website := storedAs "website" agency
      bookingUrl := storedAs "bookingUrl" agency }
  branding :=
    let branding := Fields.objectAt "branding" fields
    ⟨storedAs "primaryColor" branding, storedAs "accentColor" branding⟩
  affiliates := .ofFields (Fields.objectAt "affiliates" fields)
  template := storedAs "template" fields
  subscription :=
    let subscription := Fields.objectAt "subscription" fields
    ⟨Value.filledOr (.text "none") (Fields.get? "tier" subscription),
      storedAs "status" subscription⟩

/-- A value of a type that no profile is stored as. -/
structure UnsupportedProfile where
  typeName : Text
deriving DecidableEq

/-- The complaint about such a value. -/
def UnsupportedProfile.message (fault : UnsupportedProfile) : Text :=
  "Unsupported profile type: " ++ fault.typeName

/-- The profile stored as a value, none for `null`. -/
def Profile.ofValue : Value → Except UnsupportedProfile (Option Profile)
  | .null => .ok none
  | .object fields => .ok (some (.ofFields fields))
  | .bool _ => .error ⟨"bool"⟩
  | .int _ => .error ⟨"int"⟩
  | .float _ => .error ⟨"float"⟩
  | .text _ => .error ⟨"str"⟩
  | .list _ => .error ⟨"list"⟩

/-- Whether the advisor is trying the product out. -/
def Profile.isTrial (profile : Profile) : Bool :=
  profile.subscription.tier.text? == some ("trial" : Text)

/-! ### The agent on a proposal -/

/-- The agent shown on a proposal: what the profile has, or a generic agent without a profile. -/
def agentFields : Option Profile → Fields
  | none => [("name", .text "Travel Agent"), ("agency", .text "Travel Agency")]
  | some profile =>
    List.filter (fun (_, v) => !v.isNull)
      [("name", profile.name), ("agency", profile.agency.name), ("email", profile.email),
     ("phone", profile.phone), ("franchise", profile.agency.franchise),
     ("logo", profile.agency.logo), ("website", profile.agency.website),
     ("bookingUrl", profile.agency.bookingUrl),
     ("primaryColor", profile.branding.primaryColor),
     ("accentColor", profile.branding.accentColor)]

end TripProposal
