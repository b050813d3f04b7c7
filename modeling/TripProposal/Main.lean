import Std.Time
import TripProposal.CommandLine.Printed

/-!
# The program

The only module that reads files, the clock and the environment. What a command reads becomes a
tree of files, the command runs on that tree, and what it comes to is printed and written.
-/

namespace TripProposal.CommandLine

/-! ### Texts outside -/

/-- A text as the system takes it, with a replacement character for each surrogate. -/
def outside (s : Text) : String :=
  String.ofList (s.toList.map fun c => c.char?.getD '\uFFFD')

/-! ### Reading -/

/-- The current moment. -/
def currentMoment : IO Calendar.Moment := do
  let moment ← Std.Time.DateTime.now
  let plain := moment.toPlainDateTime
  let day := plain.date
  let some date := Calendar.Date.of? day.year.toInt.toNat day.month.val.toNat day.day.val.toNat
    | throw (IO.userError "the clock is out of range")
  let microseconds := plain.time.toNanoseconds.val.toNat / 1000
  return ⟨date, .ofMicroseconds microseconds, some (moment.timezone.offset.second.val * 1000000)⟩

/-- The variables of the environment that the program knows. -/
def knownVariables : List Text :=
  [SettingsHost.settingsVariable, "GOOGLE_MAPS_API_KEY", "PORTER_API_ENDPOINT", "LOGS_PATH",
   "PORTER_LOG_LEVEL"]

/-- The variables that are set. -/
def readVariables : IO (List (Text × Text)) :=
  knownVariables.filterMapM fun name => do
    return (← IO.getEnv (outside name)).map fun value => (name, .ofString value)

/-- What a file holds: its text, if its bytes are one. -/
def readNode (file : String) : IO FileNode := do
  match String.fromUTF8? (← IO.FS.readBinFile file) with
  | some text => return .file text
  | none => return .binary

/-- The tree with what stands at a path: a file, or a directory with all below it. -/
def readPath (tree : FileTree) (path : Path) : IO FileTree := do
  let some place := tree.settle? path | return tree
  try
    let real ← IO.FS.realPath (outside path.text)
    if ← real.isDir then
      let inner ← real.walkDir
      let entries ← inner.toList.mapM fun entry => do
        let below := Path.parse (String.ofList (entry.toString.toList.drop real.toString.length))
        let node ← if ← entry.isDir then pure FileNode.directory else readNode entry.toString
        return (place ++ below.filter (!Path.isRoot ·), node)
      return { tree with entries := entries ++ (place, .directory) :: tree.entries }
    else if ← real.pathExists then
      return { tree with entries := (place, ← readNode real.toString) :: tree.entries }
    else return tree
  catch _ => return tree

/-- The paths that the arguments and the environment lead to. -/
def inputs (environment : List (Text × Text)) (arguments : List Text) : List Path :=
  let settings := (environment.lookup SettingsHost.settingsVariable).map Path.parse
  settings.toList ++ match Command.ofArguments arguments with
    | .ok command => command.inputs
    | .error _ => []

/-- The session that the arguments start. -/
def readSession (arguments : List Text) : IO Session := do
  let directory : Text := (← IO.currentDir).toString
  let here := Path.parse directory
  let environment ← readVariables
  let files ← (inputs environment arguments).foldlM readPath
    { entries := [(here, .directory), SettingsHost.packagedFile {}], here := here }
  return {
    files := files
    environment := environment
    now := ← currentMoment
    facts := [("Command", Text.intercalate " " arguments), ("Working directory", directory)] }

/-! ### Writing -/

/-- Write a file, and make the directories above it. -/
def writeAt (path : Path) (text : Text) : IO Unit := do
  IO.FS.createDirAll (outside (Path.text path.parent))
  IO.FS.writeFile (outside path.text) (outside text)

/-- Write the log of a session. -/
def writeLog (s : Session) (path : Path) (log : Log) : IO Unit := do
  let day := Text.ofList s.now.date.isoText
  let milliseconds := s.now.clock.microsecond / 1000
  let clock := Text.ofList ({ s.now.clock with microsecond := 0 } : Calendar.Clock).isoText
  let stamp := day ++ " " ++ clock ++ "." ++ Text.ofList (Text.decimalPadded 3 milliseconds) ++ " | "
  writeAt path (Text.join ((Log.lines stamp log).map (· ++ "\n")))

/-! ### Running -/

/-- Run the command that the arguments spell, write what it made and print the rest. -/
def runProgram (arguments : List String) : IO UInt32 := do
  let arguments := arguments.map Text.ofString
  let session ← readSession arguments
  let outcome := session.run arguments
  if let some (path, log) := outcome.log then
    writeLog session path log
  for (path, text) in outcome.files do
    writeAt path text
  IO.print (outside outcome.output)
  IO.eprint (outside (outcome.errors session))
  if let some fault := outcome.unexpected? then
    IO.eprintln ("Failure: " ++ outside fault.summary)
  return outcome.exitCode.toUInt32

end TripProposal.CommandLine

/-- The program. -/
def main (arguments : List String) : IO UInt32 :=
  TripProposal.CommandLine.runProgram arguments
