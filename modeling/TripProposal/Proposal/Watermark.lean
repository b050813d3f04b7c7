import TripProposal.Settings.Basic
import TripProposal.Text.Search

/-!
# The trial watermark

Proposals of advisors who are trying the product out carry a watermark: a bar at the foot of the
page that names the product and links to its site.
-/

namespace TripProposal.Proposal

open Text

/-! ### The watermark itself -/

/-- A rule of a style sheet. -/
def styleRule (selector : Text) (declarations : List Text) : Text :=
  "  " ++ selector ++ " \x7b\n" ++
    Text.join (declarations.map fun d => "    " ++ d ++ ";\n") ++ "  \x7d\n"

/-- The style class of the watermark. -/
def watermarkClass : Text := "porter-trial-watermark"

/-- The style sheet of the watermark. -/
def watermarkStyle : Text :=
  "<style>\n" ++
  styleRule ("." ++ watermarkClass)
    ["position: fixed", "bottom: 0", "left: 0", "right: 0",
     "background: linear-gradient(135deg, #667eea 0%, #764ba2 100%)", "color: white",
     "text-align: center", "padding: 10px 20px",
     "font-family: -apple-system, BlinkMacSystemFont, 'Segoe UI', Roboto, sans-serif",
     "font-size: 14px", "z-index: 99999", "box-shadow: 0 -2px 10px rgba(0,0,0,0.1)"] ++
  styleRule ("." ++ watermarkClass ++ " a")
    ["color: white", "text-decoration: underline", "font-weight: 600"] ++
  "</style>\n"

/-- The watermark for the product of the settings. -/
def watermark (settings : Settings) : Text :=
  "\n" ++ watermarkStyle ++
    "<div class=\"" ++ watermarkClass ++ "\">\n  Created with " ++ settings.productName ++
    " (Trial) &middot; <a href=\"" ++ settings.watermarkUrl ++
    "\" target=\"_blank\">Start your free trial</a>\n</div>\n"

/-! ### Where it stands -/

/-- The closing tag of the page's body. -/
def bodyClose : List CodePoint := "</body>".codePoints

/-- Whether a text starts with the closing tag in any letter case. -/
def startsWithBodyClose (html : List CodePoint) : Bool :=
  (html.take bodyClose.length).map CodePoint.toLower == bodyClose

/-- The text in front of the last closing tag and the text from there. -/
def cutLastBodyClose? : List CodePoint → Option (List CodePoint × List CodePoint)
  | [] => none
  | c :: rest =>
    match cutLastBodyClose? rest with
    | some (before, after) => some (c :: before, after)
    | none => if startsWithBodyClose (c :: rest) then some ([], c :: rest) else none

/-- A page with a mark in front of the last closing tag of its body, or at its end. -/
def insertMark (mark page : List CodePoint) : List CodePoint :=
  match cutLastBodyClose? page with
  | some (before, after) => before ++ mark ++ after
  | none => page ++ mark

end TripProposal.Proposal
