import TripProposal.CommandLine.Arguments
import TripProposal.Files.Path

/-!
# Commands

The program renders a trip as a proposal, shows a trip as templates see it, or lists the templates
that there are.
-/

namespace TripProposal.CommandLine

/-- What a command reads and where its result goes. -/
structure TripOrder where
  trip : Path
  profile : Option Path
  /-- Path of the result, which is printed without one. -/
  output : Option Path

/-- Where templates are looked for. -/
structure TemplateOrder where
  /-- Path of the directory of templates; without one there is only the built-in template. -/
  directory : Option Path
  scope : Option Text

/-- A command. -/
inductive Command
  | render (trip : TripOrder) (templates : TemplateOrder) (template key : Option Text)
  | normalize (trip : TripOrder)
  | list (templates : TemplateOrder)

/-! ### Options -/

/-- The option for the profile. -/
def profileOption : OptionName := ⟨'p', "profile"⟩

/-- The option for the result. -/
def outputOption : OptionName := ⟨'o', "output"⟩

/-- The option for the directory of templates. -/
def directoryOption : OptionName := ⟨'d', "templates-dir"⟩

/-- The option for the scope. -/
def scopeOption : OptionName := ⟨'s', "scope"⟩

/-- The option for the template. -/
def templateOption : OptionName := ⟨'t', "template"⟩

/-- The option for the key of the trip. -/
def keyOption : OptionName := ⟨'k', "trip-key"⟩

namespace Arguments

/-- The value of an option by its name. -/
def get? (a : Arguments) (name : OptionName) : Option Text :=
  a.value? name.letter

/-- The path that an option gives. -/
def path? (a : Arguments) (name : OptionName) : Option Path :=
  (a.get? name).map Path.parse

/-- The trip that the arguments name. -/
def tripOrder (a : Arguments) : Except UsageFault TripOrder :=
  match a.others with
  | [trip] => .ok ⟨Path.parse trip, a.path? profileOption, a.path? outputOption⟩
  | [] => .error .tripMissing
  | _ :: extra :: _ => .error (.tooMany extra)

/-- Where the arguments say that templates are. -/
def templateOrder (a : Arguments) : TemplateOrder :=
  ⟨a.path? directoryOption, a.get? scopeOption⟩

end Arguments

/-! ### Commands from arguments -/

/-- The `render` command with its arguments. -/
def Command.ofRender (arguments : List Text) : Except UsageFault Command := do
  let a ← Arguments.read [templateOption, directoryOption, scopeOption, profileOption, keyOption,
    outputOption] arguments
  return .render (← a.tripOrder) a.templateOrder (a.get? templateOption) (a.get? keyOption)

/-- The `normalize` command with its arguments. -/
def Command.ofNormalize (arguments : List Text) : Except UsageFault Command := do
  let a ← Arguments.read [profileOption, outputOption] arguments
  return .normalize (← a.tripOrder)

/-- The `templates` command with its arguments. -/
def Command.ofTemplates (arguments : List Text) : Except UsageFault Command := do
  let a ← Arguments.read [directoryOption, scopeOption] arguments
  match a.others with
  | [] => return .list a.templateOrder
  | extra :: _ => throw (.tooMany extra)

/-- The command that the arguments of the program spell. -/
def Command.ofArguments : List Text → Except UsageFault Command
  | [] => .error .helpWanted
  | name :: rest =>
    if name = "render" then ofRender rest
    else if name = "normalize" then ofNormalize rest
    else if name = "templates" then ofTemplates rest
    else if name = "--help" then .error .helpWanted
    else .error (.unknownCommand name)

/-- The paths that a command reads. -/
def Command.inputs : Command → List Path
  | .render trip templates _ _ => trip.trip :: trip.profile.toList ++ templates.directory.toList
  | .normalize trip => trip.trip :: trip.profile.toList
  | .list templates => templates.directory.toList

end TripProposal.CommandLine
