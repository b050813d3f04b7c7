import TripProposal.Settings.Basic
import TripProposal.Text.Case
import TripProposal.Trip.Workspace

/-!
# Repeated notices

Trips often say in two places that something has to be booked independently. When both fields of a
pair say so, the less specific one is blanked. What counts as saying so is up to a matcher, which
gives the distinct cues that it finds in a text.
-/

namespace TripProposal.Trip

open Text

/-- The distinct cues found in a text. -/
abbrev NoticeMatcher := Text → List Text

/-- The items that differ from every later one. -/
def distinct : List Text → List Text
  | [] => []
  | s :: rest => if rest.contains s then distinct rest else s :: distinct rest

/-- The matcher that looks for phrases in any letter case; empty phrases are no cues. -/
def keywordMatcher (keywords : List Text) : NoticeMatcher := fun text =>
  let lowered := lower text.toList
  distinct (((keywords.filter fun keyword : Text => keyword ≠ "").map (onString lower)).filter fun cue =>
    holds cue.toList lowered)

/-- How specific a text is: its distinct cues, then its length. -/
structure Specificity where
  cues : Nat
  length : Nat
deriving DecidableEq

/-- How specific a text is for a matcher. -/
def Specificity.of (matcher : NoticeMatcher) (text : Text) : Specificity :=
  ⟨(matcher text).length, text.length⟩

/-- Whether one text is less specific than another. -/
def Specificity.isBelow (a b : Specificity) : Bool :=
  a.cues < b.cues || (a.cues == b.cues && a.length < b.length)

/-- Which of two fields is blanked, and which is kept. -/
structure Choice where
  blanked : Text
  kept : Text
deriving DecidableEq

/-- The choice between the fields of a pair, none unless both hold a notice. The first field is
kept when both are equally specific. -/
def choice? (matcher : NoticeMatcher) (trip : Value) (pair : NoticePair) : Option Choice :=
  match trip.atPath (Value.pathKeys pair.first), trip.atPath (Value.pathKeys pair.second) with
  | .text first, .text second =>
    if (matcher first).isEmpty || (matcher second).isEmpty then none
    else if (Specificity.of matcher first).isBelow (.of matcher second) then
      some ⟨pair.first, pair.second⟩
    else some ⟨pair.second, pair.first⟩
  | _, _ => none

/-- Blank the less specific field of every pair, one pair after the other. -/
def blankNotices (matcher : NoticeMatcher) (workspace : Workspace) :
    List NoticePair → Workspace × List Repair
  | [] => (workspace, [])
  | pair :: pairs =>
    match choice? matcher (.object workspace.trip) pair with
    | none => blankNotices matcher workspace pairs
    | some choice =>
      let rest := blankNotices matcher
        (workspace.putAtPath (Value.pathKeys choice.blanked) (.text "")) pairs
      (rest.1, .noticeBlanked choice.blanked choice.kept :: rest.2)

end TripProposal.Trip
