import TripProposal.Log
import TripProposal.Template.Render

/-!
# Remarks about templates

What rendering reports about a template: openers that nothing closes.
-/

namespace TripProposal.Template

/-- A report about templates. -/
def remark (level : LogLevel) (message : Text) : LogEntry :=
  ⟨level, "[template] " ++ message⟩

/-- The report of an opener that nothing closes. -/
def unclosedRemark (content : List CodePoint) : LogEntry :=
  remark .debug
    ("No closing tag for " ++ Text.ofList (delimited content) ++ "; rendering literally")

/-- A rendering with its reports: the text, or the fault that ended it. -/
def Rendering.logged (r : Rendering) : Logged Fault Text :=
  ⟨r.unclosed.map unclosedRemark,
   match r.fault? with
   | some fault => .error fault
   | none => .ok (Text.ofList r.text)⟩

end TripProposal.Template
