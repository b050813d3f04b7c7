import TripProposal.Calendar.Moment
import TripProposal.Log
import TripProposal.Settings.Cache
import TripProposal.Settings.File
import TripProposal.Text.Search

/-!
# Sessions

Rendering is a session with a log of its own: a header that records what the proposal is made
from, and then every report. Reports that are important enough are shown at once as well.
-/

namespace TripProposal

open Text

/-! ### Written reports -/

/-- How important a level is, as a number. -/
def LogLevel.severity : LogLevel → Nat
  | .debug => 10
  | .info => 20
  | .success => 25
  | .warning => 30

/-- A report with its level, `INFO    | …`. -/
def LogEntry.text (e : LogEntry) : Text :=
  onString (padRight 7 ' ') e.level.name ++ " | " ++ e.message

/-- Reports as lines, each entry after a stamp. -/
def Log.lines (stamp : Text) (log : Log) : List Text :=
  log.flatMap fun e =>
    (splitAtMark '\n' (unifyNewlines (stamp ++ e.text).toList)).map Text.ofList

namespace CommandLine

/-- What a command works with. -/
structure Session extends SettingsHost where
  now : Calendar.Moment
  /-- More lines for the header of the log. -/
  facts : List (Text × Text) := []

namespace Session

/-- The current settings, of which a new session remembers none. -/
def settings (s : Session) : Except SettingsFault Settings :=
  (SettingsCache.current .json {} s.toSettingsHost).1

/-- The directory of the session. -/
def logDirectory (s : Session) : Path :=
  Path.parse ((s.environment.lookup ("LOGS_PATH" : Text)).getD "outs/logs") ++
    [("render_" : Text) ++ s.now.directoryName]

/-- The file for the log of the session. -/
def logFile (s : Session) : Path :=
  s.logDirectory ++ [("render.log" : Text)]

/-! ### The header of the log -/

/-- The version of the program. -/
def version : Text := "0.1.0"

/-- Width of the names in the header. -/
def nameWidth : Nat := 17

/-- A line of the header. -/
def headerLine (name value : Text) : LogEntry :=
  ⟨.debug, onString (padRight nameWidth ' ') name ++ " : " ++ value⟩

/-- The rule above and below the header. -/
def headerRule : LogEntry :=
  ⟨.debug, Text.ofList (List.replicate 60 '-')⟩

/-- The name of the template that is asked for, as the header shows it. -/
def templateShown (template : Option Text) : Text :=
  match template with
  | none => "(auto)"
  | some name => if name = "" then "(auto)" else name

/-- The header of the log. -/
def header (s : Session) (template : Option Text) : Log :=
  let settings := (s.environment.lookup SettingsHost.settingsVariable).getD "(packaged)"
  headerRule :: headerLine "Session" "render" ::
    s.facts.map (fun (name, value) => headerLine name value) ++
    [headerLine "Porter" version, headerLine "Template" (templateShown template),
     headerLine "Settings" settings, headerRule]

/-! ### Reports that are shown -/

/-- Names of levels with their severity. -/
def namedLevels : List (Text × Nat) :=
  [("TRACE", 5), ("DEBUG", 10), ("INFO", 20), ("SUCCESS", 25), ("WARNING", 30), ("ERROR", 40),
   ("CRITICAL", 50)]

/-- The severity from which reports are shown. -/
def shownFrom (s : Session) : Nat :=
  ((s.environment.lookup ("PORTER_LOG_LEVEL" : Text)).bind (namedLevels.lookup ·)).getD 20

/-- The reports that are shown, as text. -/
def shown (s : Session) (log : Log) : Text :=
  let clock := Text.ofList ({ s.now.clock with microsecond := 0 } : Calendar.Clock).isoText
  Text.join ((Log.lines (clock ++ " | ")
    (log.filter fun e => s.shownFrom ≤ e.level.severity)).map (· ++ "\n"))

end Session

end CommandLine

end TripProposal
