import TripProposal.Text.Search

/-!
# Arguments

The arguments of a command are options, each with a value, and others that keep their order. An
option is written `--word value`, `--word=value`, `-l value` or `-lvalue`, anywhere among the
others; after `--` nothing is an option any more.
-/

namespace TripProposal.CommandLine

open Text

/-- The two names of an option. -/
structure OptionName where
  letter : CodePoint
  word : Text

/-- Why arguments do not make a command. -/
inductive UsageFault
  | helpWanted
  | unknownOption (name : Text)
  | valueMissing (name : Text)
  | unknownCommand (name : Text)
  | tripMissing
  | tooMany (first : Text)
deriving DecidableEq

/-- Arguments told apart. -/
structure Arguments where
  /-- Options by their letters, with their values, in order. -/
  options : List (CodePoint × Text) := []
  others : List Text := []

/-- What a single argument is. -/
inductive ArgumentKind
  /-- An option, with its value if that belongs to the same argument. -/
  | option (letter : CodePoint) (value : Option Text)
  /-- Something that only looks like an option. -/
  | fault (fault : UsageFault)
  | other

/-- What an argument after two dashes is. -/
def ArgumentKind.ofWord (known : List OptionName) (argument : List CodePoint) : ArgumentKind :=
  let (word, value) := match cut? ['='] argument with
    | some (word, value) => (Text.ofList word, some (Text.ofList value))
    | none => (Text.ofList argument, none)
  match known.find? (·.word = word) with
  | some name => .option name.letter value
  | none => .fault (if word = "help" then .helpWanted else .unknownOption ("--" ++ word))

/-- What an argument is for a command with the given options. -/
def ArgumentKind.of (known : List OptionName) (argument : List CodePoint) : ArgumentKind :=
  match argument with
  | '-' :: '-' :: word => .ofWord known word
  | '-' :: letter :: value =>
    if known.any (·.letter = letter) then
      .option letter (if value.isEmpty then none else some (Text.ofList value))
    else .fault (.unknownOption (Text.ofList ['-', letter]))
  | _ => .other

namespace Arguments

/-- Put an option in front. -/
def withOption (a : Arguments) (letter : CodePoint) (value : Text) : Arguments :=
  { a with options := (letter, value) :: a.options }

/-- Put an argument that is no option in front. -/
def withOther (a : Arguments) (argument : Text) : Arguments :=
  { a with others := argument :: a.others }

/-- The value of an option; the last one counts. -/
def value? (a : Arguments) (letter : CodePoint) : Option Text :=
  a.options.reverse.lookup letter

/-- Tell the arguments of a command with the given options apart. -/
def read (known : List OptionName) : List Text → Except UsageFault Arguments
  | [] => .ok {}
  | argument :: rest =>
    if argument = "--" then .ok { others := rest }
    else
      match ArgumentKind.of known argument.toList with
      | .other => (read known rest).map (·.withOther argument)
      | .fault fault => .error fault
      | .option letter (some value) => (read known rest).map (·.withOption letter value)
      | .option letter none =>
        match rest with
        | [] => .error (.valueMissing argument)
        | value :: rest => (read known rest).map (·.withOption letter value)

end Arguments

end TripProposal.CommandLine
