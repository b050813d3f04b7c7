import TripProposal.Proposal.Watermark
import TripProposal.Template.Registry
import TripProposal.Trip.Normalize

/-!
# Rendering a proposal

A proposal is the page that a template shows of a normalized trip. The template is chosen first and
fetched from the registry; then the trip is normalized and shown; a trial gets its watermark last.
-/

namespace TripProposal.Proposal

open Trip Template

/-- Why there is no proposal. -/
inductive Fault
  | unresolved (fault : Template.Unresolved)
  | trip (fault : NormalizeFault)
  | template (fault : Template.Fault)

/-- How a proposal is to be made. -/
structure Options where
  template : Value := .null
  scope : Option Text := none
  /-- Whether plain paths show lists and objects. -/
  showsStructure : Bool := true

/-- A proposal. -/
structure Page where
  html : Text
  templateName : Text
  repairs : List Repair
  watermarked : Bool
  workspace : Workspace

/-! ### Reports -/

/-- A report about rendering. -/
def renderNote (level : LogLevel) (message : Text) : LogEntry :=
  ⟨level, "[render] " ++ message⟩

/-- The reports of the start. -/
def startNotes (label templateName : Text) (scope : Option Text) : Log :=
  renderNote .info ("Rendering " ++ label ++ " with template '" ++ templateName ++ "'") ::
    ((scope? scope).map fun s => renderNote .debug ("  Scope: " ++ s)).toList

/-- How many repairs are reported one by one. -/
def reportedRepairs : Nat := 3

/-- The reports of repairs. -/
def repairNotes (repairs : List Repair) : Log :=
  if repairs.isEmpty then []
  else
    renderNote .warning (Text.ofNat repairs.length ++ " data repairs during normalization") ::
      ((repairs.take reportedRepairs).mapIdx fun index repair =>
        renderNote .debug ("  Repair " ++ Text.ofNat (index + 1) ++ ": " ++ repair.message)) ++
      (if repairs.length ≤ reportedRepairs then []
       else [renderNote .debug
         ("  ... and " ++ Text.ofNat (repairs.length - reportedRepairs) ++ " more repairs")])

/-- The reports of the end. -/
def endNotes (label : Text) (page : Page) : Log :=
  renderNote .success (label ++ ": " ++ Text.ofNat page.html.length ++ " chars (0.000s)") ::
    repairNotes page.repairs ++
    (if page.watermarked then [renderNote .info "Trial watermark added"] else [])

/-! ### The proposal -/

/-- Whether an advisor's proposals carry the watermark. -/
def isTrial (profile : Option Profile) : Bool :=
  profile.any Profile.isTrial

/-- A page with the watermark of the settings if the advisor is on trial. -/
def withWatermark (profile : Option Profile) (settings : Settings) (html : Text) : Text :=
  if isTrial profile then
    Text.ofList (insertMark (watermark settings).toList html.toList)
  else html

/-- The name of the template for a proposal. -/
def templateFor (options : Options) (request : Request) (trip : Value) : Text :=
  nameForTrip options.template trip ((request.profile.map (·.template)).getD .null)

/-- Make the proposal for a trip document with the templates of a registry. -/
def render (registry : Registry) (options : Options) (request : Request) (now : Calendar.Moment)
    (document : Value) : Logged Fault Page :=
  match tripLabel? request.tripKey document with
  | none => .error (.trip .notAnObject)
  | some label => do
    let name := templateFor options request document
    .report (startNotes label name options.scope)
    let text ← (registry.get name options.scope).1.mapError .unresolved
    let matcher := keywordMatcher request.settings.noticeKeywords
    let normalized ← (normalize request matcher now document).mapError .trip
    let engine : Engine := ⟨options.showsStructure, now⟩
    let html ← (engine.render text (.object normalized.data)).logged.mapError .template
    let page : Page :=
      { html := withWatermark request.profile request.settings html
        templateName := name
        repairs := normalized.repairs
        watermarked := isTrial request.profile
        workspace := normalized.workspace }
    .report (endNotes label page)
    return page

end TripProposal.Proposal
