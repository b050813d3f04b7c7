import TripProposal.CommandLine.Run

/-!
# What is printed

The two outputs and the exit code of the program: 0 for a result, 2 for arguments that make no
command, 1 for all other faults. `Fault.complaint?` tells the faults that the user can mend;
`Fault.summary` names the cause of the others.
-/

namespace TripProposal

/-- The cause in a few words. -/
def DocumentFault.summary : DocumentFault → Text
  | .missing path => "no such file: " ++ path.text
  | .isDirectory path => "is a directory: " ++ path.text
  | .notText fault => "the file is no text: " ++ fault.path.text
  | .notJson => "the document is not JSON"
  | .notYaml => "the document is not YAML"
  | .plainValue => "the document is a plain value"

/-- The cause in a few words. -/
def SettingsFault.summary : SettingsFault → Text
  | .document fault => fault.summary
  | .listAtTop => "the settings are a list"
  | .unknownKey key => "there is no setting " ++ key
  | .wrongType key => "wrong type for the setting " ++ key

/-- The cause in a few words. -/
def Trip.NormalizeFault.summary : Trip.NormalizeFault → Text
  | .notAnObject => "the trip is no object"
  | .link (.url _) => "a link is no URL"
  | .link (.encoding _) => "a link or a code is no text"
  | .balance _ => "a balance is out of range"
  | .config (.tripId _) => "the key of the trip is no text"
  | .config (.commentCount _) => "the number of comments is no number"

/-- The cause in a few words. -/
def Proposal.Fault.summary : Proposal.Fault → Text
  | .unresolved (.missing missing) => missing.message
  | .unresolved (.unreadable fault) => "the file is no text: " ++ fault.path.text
  | .trip fault => fault.summary
  | .template _ => "the template cannot be rendered"

/-- The cause in a few words. -/
def Obstacle.summary : Obstacle → Text
  | .fileAsDirectory => "a file stands in place of a directory"
  | .belowFile => "the path leads through a file"
  | .isDirectory => "a directory stands in place of the file"

namespace CommandLine

/-- How the program is called. -/
def usage : Text :=
  "Usage:\n" ++
  "  render TRIP [-t TEMPLATE] [-d TEMPLATES-DIR] [-s SCOPE] [-p PROFILE] [-k TRIP-KEY] " ++
  "[-o OUTPUT]\n" ++
  "  normalize TRIP [-p PROFILE] [-o OUTPUT]\n" ++
  "  templates [-d TEMPLATES-DIR] [-s SCOPE]\n"

/-- The complaint about arguments. -/
def UsageFault.summary : UsageFault → Text
  | .helpWanted => "Help is wanted"
  | .unknownOption name => "No such option: " ++ name
  | .valueMissing name => "Option '" ++ name ++ "' requires an argument."
  | .unknownCommand name => "No such command '" ++ name ++ "'."
  | .tripMissing => "Missing argument 'TRIP'."
  | .tooMany first => "Got unexpected extra argument (" ++ first ++ ")"

namespace Fault

/-- The cause in a few words. -/
def summary : Fault → Text
  | usage fault => fault.summary
  | document fault => fault.summary
  | settings fault => fault.summary
  | profile fault => fault.message
  | trip fault => fault.summary
  | proposal fault => fault.summary
  | notEncodable _ => "the result is no text"
  | writing obstacle => obstacle.summary

/-- What the user is told about a fault that the program expects. -/
def complaint? : Fault → Option Text
  | usage .helpWanted => some ""
  | usage fault => some (CommandLine.usage ++ "\nError: " ++ fault.summary ++ "\n")
  | document (.missing path) => some ("Error: File not found: " ++ path.text ++ "\n\n")
  | proposal (.unresolved (.missing missing)) => some ("Error: " ++ missing.message ++ "\n\n")
  | _ => none

/-- The exit code for a fault. -/
def exitCode : Fault → Nat
  | usage .helpWanted => 0
  | usage _ => 2
  | _ => 1

end Fault

namespace Outcome

/-- The exit code. -/
def exitCode (outcome : Outcome) : Nat :=
  match outcome.result with
  | .ok _ => 0
  | .error fault => fault.exitCode

/-- What is printed. -/
def output (outcome : Outcome) : Text :=
  match outcome.result with
  | .ok report => report.output
  | .error (.usage .helpWanted) => usage
  | .error _ => ""

/-- What is printed on the side: reports that are shown, then remarks or a complaint. -/
def errors (s : Session) (outcome : Outcome) : Text :=
  s.shown ((outcome.log.map (·.2)).getD []) ++
    match outcome.result with
    | .ok report => report.remarks
    | .error fault => fault.complaint?.getD ""

/-- The fault that ends the program, if the program does not expect it. -/
def unexpected? (outcome : Outcome) : Option Fault :=
  match outcome.result with
  | .ok _ => none
  | .error fault => if fault.complaint?.isSome then none else some fault

/-- The files that are written, apart from the log. -/
def files (outcome : Outcome) : List (Path × Text) :=
  match outcome.result with
  | .ok report => report.files
  | .error (.notEncodable opened) => (opened.map fun path => (path, ("" : Text))).toList
  | .error _ => []

end Outcome

end CommandLine

end TripProposal
