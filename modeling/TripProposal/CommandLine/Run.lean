import TripProposal.CommandLine.Command
import TripProposal.CommandLine.Session
import TripProposal.Proposal.Render

/-!
# Running commands

A command reads its documents, does its work, and prints its result or writes it to a file. What
went wrong is told where the user can mend it: arguments, a missing file, a missing template. All
other faults end the program.
-/

namespace TripProposal.CommandLine

open Trip Template

/-- Why a command has no result. -/
inductive Fault
  | usage (fault : UsageFault)
  | document (fault : DocumentFault)
  | settings (fault : SettingsFault)
  | profile (fault : UnsupportedProfile)
  | trip (fault : NormalizeFault)
  | proposal (fault : Proposal.Fault)
  /-- The text that is to be printed or written has no bytes; a file that was opened for it stays
  empty. -/
  | notEncodable (opened : Option Path)
  | writing (obstacle : Obstacle)

/-- The result of a command. -/
structure Report where
  output : Text
  remarks : Text := ""
  files : List (Path × Text) := []

/-- What a command comes to. -/
structure Outcome where
  result : Except Fault Report
  log : Option (Path × Log) := none

/-! ### Documents and results -/

/-- The trip and the profile of an order. -/
def Session.documents (s : Session) (order : TripOrder) : Except DocumentFault (Value × Value) := do
  let trip ← s.files.document order.trip
  match order.profile with
  | some path => return (trip, ← s.files.document path)
  | none => return (trip, .null)

/-- A text that is printed, or written to a file. -/
def deliver (files : FileTree) (text : Text) (remarks : Text) :
    Option Path → Except Fault Report
  | none => if text.isEncodable then .ok ⟨text ++ "\n", remarks, []⟩ else .error (.notEncodable none)
  | some path =>
    match files.obstacle? path with
    | some obstacle => .error (.writing obstacle)
    | none =>
      if text.isEncodable then .ok ⟨"✓ Wrote " ++ path.text ++ "\n", remarks, [(path, text)]⟩
      else .error (.notEncodable (some path))

/-- The list of repairs. -/
def repairList (repairs : List Repair) : Text :=
  if repairs.isEmpty then ""
  else
    Text.ofNat repairs.length ++ " data repairs:\n" ++
      Text.join (repairs.map fun repair => "  - " ++ repair.message ++ "\n")

/-- Templates that a command can use. -/
def TemplateOrder.store (files : FileTree) (order : TemplateOrder) : Store :=
  match order.directory with
  | some root => .directory files root
  | none => .empty

/-! ### Rendering -/

/-- The key of a trip: the one that is given, or else the name of its file. -/
def keyFor (order : TripOrder) (key : Option Text) : Text :=
  match key with
  | none => order.trip.stem
  | some key => if key = "" then order.trip.stem else key

/-- What is made known about a proposal. -/
def pageRemarks (s : Session) (page : Proposal.Page) : Text :=
  repairList page.repairs ++
    "Template: " ++ page.templateName ++ " (0.000s)\nLog: " ++ s.logFile.text ++ "\n"

/-- Render a trip with its profile; `files` has the log of the session. -/
def Session.renderPage (s : Session) (files : FileTree) (order : TripOrder)
    (templates : TemplateOrder) (template key : Option Text) (trip profile : Value) :
    Logged Fault Report := do
  let settings ← .ofExcept (s.settings.mapError .settings)
  let profile ← .ofExcept ((Profile.ofValue profile).mapError .profile)
  let request : Request := ⟨profile, settings, keyFor order key, {}⟩
  let options : Proposal.Options :=
    { template := (template.map Value.text).getD .null, scope := templates.scope }
  let page ← (Proposal.render ⟨templates.store files, []⟩ options request s.now trip).mapError
    .proposal
  .ofExcept (deliver files page.html (pageRemarks s page) order.output)

/-- The `render` command. -/
def Session.render (s : Session) (order : TripOrder) (templates : TemplateOrder)
    (template key : Option Text) : Outcome :=
  match s.documents order with
  | .error fault => { result := .error (.document fault) }
  | .ok (trip, profile) =>
    match s.files.obstacle? s.logFile with
    | some obstacle => { result := .error (.writing obstacle) }
    | none =>
      let files := s.files.write s.logFile ""
      let work := s.renderPage files order templates template key trip profile
      { result := work.outcome
        log := some (s.logFile, s.header template ++ work.log) }

/-! ### Other commands -/

/-- The `normalize` command. -/
def Session.normalize (s : Session) (order : TripOrder) : Except Fault Report := do
  let (trip, profile) ← (s.documents order).mapError .document
  let settings ← s.settings.mapError .settings
  let profile ← (Profile.ofValue profile).mapError .profile
  let request : Request := ⟨profile, settings, order.trip.stem, {}⟩
  let matcher := keywordMatcher settings.noticeKeywords
  let normalized ← (Trip.normalize request matcher s.now trip).outcome.mapError .trip
  deliver s.files (Text.ofList (Value.object normalized.data).indented)
    (repairList normalized.repairs) order.output

/-- Names in a line. -/
def nameList (names : List Text) : Text :=
  if names.isEmpty then "(none)" else Text.intercalate ", " names

/-- The `templates` command. -/
def Session.listTemplates (s : Session) (templates : TemplateOrder) : Report :=
  let listing := (templates.store s.files).listing templates.scope
  let inScope := match scope? templates.scope with
    | some scope => "  Scoped (" ++ scope ++ "): " ++ nameList listing.inScope ++ "\n"
    | none => ""
  { output := "\nTemplates\n" ++ inScope ++ "  Shared: " ++ nameList listing.shared ++
      "\n  Default: " ++ listing.defaultTemplate ++ "\n\n" }

/-- Run a command. -/
def Session.perform (s : Session) : Command → Outcome
  | .render trip templates template key => s.render trip templates template key
  | .normalize trip => { result := s.normalize trip }
  | .list templates => { result := .ok (s.listTemplates templates) }

/-- Run the command that the arguments spell. -/
def Session.run (s : Session) (arguments : List Text) : Outcome :=
  match Command.ofArguments arguments with
  | .ok command => s.perform command
  | .error fault => { result := .error (.usage fault) }

end TripProposal.CommandLine
