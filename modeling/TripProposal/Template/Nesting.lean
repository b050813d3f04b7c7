import TripProposal.Template.Tag

/-!
# Nested blocks

A block ends at the closer that balances its opener, openers of the same kind in between being
counted. The alternative of a condition starts at the first `else` outside the conditions and
loops of its body; other blocks do not count there, and a closer too many keeps any `else` behind
it from being outside.
-/

namespace TripProposal.Template

open Text

/-- Where the closer stands that leaves `depth` openers fewer than none, the next `skip`
characters being passed over. -/
def closeFrom (opener closer : List CodePoint) : Nat → Nat → List CodePoint → Option Nat
  | _, _, [] => none
  | skip + 1, depth, _ :: rest => (closeFrom opener closer skip depth rest).map (· + 1)
  | 0, depth, c :: rest =>
    if closer.isPrefixOf (c :: rest) then
      match depth with
      | 0 => some 0
      | depth + 1 => (closeFrom opener closer (closer.length - 1) depth rest).map (· + 1)
    else if opener.isPrefixOf (c :: rest) then
      (closeFrom opener closer (opener.length - 1) (depth + 1) rest).map (· + 1)
    else (closeFrom opener closer 0 depth rest).map (· + 1)

/-- Where the closer stands that balances an opener just before the text. -/
def closeOffset? (opener closer text : List CodePoint) : Option Nat :=
  closeFrom opener closer 0 0 text

/-- Where the closer stands in a text that balances an opener which ends at `start`. A negative
start counts from the end. -/
def matchingClose? (opener closer text : List CodePoint) (start : Int) : Option Nat :=
  let start := if start < 0 then (start + text.length).toNat else start.toNat
  (closeOffset? opener closer (text.drop start)).map (· + start)

/-- What a character position means for the nesting of alternatives. -/
inductive ElseMark
  | opens
  | closes
  | alternative
  | other
deriving DecidableEq

/-- The mark that a text starts with. -/
def elseMark (text : List CodePoint) : ElseMark :=
  if BlockKind.whenSet.opener.isPrefixOf text || BlockKind.forEach.opener.isPrefixOf text then
    .opens
  else if BlockKind.whenSet.closer.isPrefixOf text || BlockKind.forEach.closer.isPrefixOf text then
    .closes
  else if elseTag.isPrefixOf text then .alternative
  else .other

/-- Where the alternative starts, `depth` being the openers less the closers so far. -/
def elseFrom (depth : Int) : List CodePoint → Option Nat
  | [] => none
  | c :: rest =>
    match elseMark (c :: rest) with
    | .opens => (elseFrom (depth + 1) rest).map (· + 1)
    | .closes => (elseFrom (depth - 1) rest).map (· + 1)
    | .alternative => if depth = 0 then some 0 else (elseFrom depth rest).map (· + 1)
    | .other => (elseFrom depth rest).map (· + 1)

/-- Where the alternative of a condition starts in its body. -/
def elseOffset? (body : List CodePoint) : Option Nat :=
  elseFrom 0 body

end TripProposal.Template
