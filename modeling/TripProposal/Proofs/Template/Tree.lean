import Mathlib.Data.List.Infix
import Mathlib.Tactic.Common
import TripProposal.Template.Render

/-!
# Template trees

A well-formed template is a tree of literal texts, value tags and blocks. `Tree.print` writes it
down and `Tree.eval` evaluates it without looking at text again: blocks choose and repeat whole
subtrees, and the markers of a loop are looked up in its current entry.

`Tree.textWith` is the text of a tree in which some value tags are filled in. That is what is left
of the body of a loop once the markers of an entry are replaced.
-/

namespace TripProposal.Template

open Text

/-! ### Pieces -/

/-- A text without braces. -/
def IsPlain (text : List CodePoint) : Prop := .char '{' ∉ text ∧ .char '}' ∉ text

instance : DecidablePred IsPlain := fun text =>
  inferInstanceAs (Decidable (.char '{' ∉ text ∧ .char '}' ∉ text))

/-- A text in which no tag starts, not even with what may follow the text. -/
def IsInert (text : List CodePoint) : Prop :=
  ¬ openMark <:+: text ∧ text.getLast? ≠ some (.char '{')

instance : DecidablePred IsInert := fun text =>
  inferInstanceAs (Decidable (¬ openMark <:+: text ∧ text.getLast? ≠ some (.char '{')))

/-- Literal text of a template. -/
structure Literal where
  chars : List CodePoint
  inert : IsInert chars

/-- What stands between the delimiters of a tag, and the expression of a block. -/
structure Content where
  chars : List CodePoint
  ne_nil : chars ≠ []
  trimmed : trim chars = chars
  plain : IsPlain chars

/-- The content of a tag that shows a value. -/
structure ValueContent extends Content where
  ne_else : chars ≠ "else".codePoints
  not_opener : chars.head? ≠ some (.char '#')
  not_closer : chars.head? ≠ some (.char '/')

/-- A well-formed template. Each constructor has the rest of its level as last argument. -/
inductive Tree
  | nil
  | text (literal : Literal) (next : Tree)
  | value (content : ValueContent) (next : Tree)
  | block (kind : BlockKind) (expression : Content) (body next : Tree)
  | choice (expression : Content) (body alternative next : Tree)

/-! ### Text of a tree -/

/-- The tag that opens a block. -/
def openerTag (kind : BlockKind) (expression : List CodePoint) : List CodePoint :=
  delimited (Tag.block kind expression).print

namespace Tree

/-- The text of a tree, value tags whose content is in the domain of `fill` being filled in. -/
def textWith (fill : List CodePoint → Option (List CodePoint)) : Tree → List CodePoint
  | nil => []
  | text literal next => literal.chars ++ next.textWith fill
  | value content next =>
    (fill content.chars).getD (delimited content.chars) ++ next.textWith fill
  | block kind expression body next =>
    openerTag kind expression.chars ++ (body.textWith fill ++ (kind.closer ++ next.textWith fill))
  | choice expression body alternative next =>
    openerTag .whenSet expression.chars ++ (body.textWith fill ++ (elseTag ++
      (alternative.textWith fill ++ (BlockKind.whenSet.closer ++ next.textWith fill))))

/-- The written form of a tree. -/
def print (t : Tree) : List CodePoint :=
  t.textWith fun _ => none

/-- How many blocks stand inside each other at most. -/
def height : Tree → Nat
  | nil => 0
  | text _ next | value _ next => next.height
  | block _ _ body next => max (body.height + 1) next.height
  | choice _ body alternative next =>
    max (max (body.height + 1) (alternative.height + 1)) next.height

end Tree

/-! ### Markers of loops -/

/-- The contents of the tags that a loop replaces. -/
def markerContents : List (List CodePoint) :=
  ["@index".codePoints, "@key".codePoints, "this".codePoints]

/-- What an entry puts in place of the tag with the given content. An item that opens a scope of
its own leaves `this` to that scope. -/
def Entry.marker? (entry : Entry) (content : List CodePoint) : Option (List CodePoint) :=
  if content = "@index".codePoints then some (decimal entry.position)
  else if content = "@key".codePoints then some entry.key
  else if content = "this".codePoints ∧ opensScope entry.value = false then
    some (display (some entry.value))
  else none

/-- What the innermost loop, if there is one, puts in place of a tag. -/
def loopMarker? (loop : Option Entry) (content : List CodePoint) : Option (List CodePoint) :=
  loop.bind fun entry => entry.marker? content

/-- Where a part of a template stands with respect to loops. -/
inductive Place
  | outside
  /-- In the body of a loop that is in no other loop, the scope being that of the loop. -/
  | inLoop
  | deeper
deriving DecidableEq

/-- The place of the body of a block. -/
def Place.inside (place : Place) : BlockKind → Place
  | .whenSet | .whenUnset => place
  | .forEach => if place = .outside then .inLoop else .deeper
  | .within => if place = .outside then .outside else .deeper

/-- Whether markers stand where the loop that they belong to is the only one around them, and no
`with` block is between. -/
def Tree.MarkersFit : Place → Tree → Prop
  | _, .nil => True
  | place, .text _ next => next.MarkersFit place
  | place, .value content next =>
    (place = .deeper → content.chars ∉ markerContents) ∧ next.MarkersFit place
  | place, .block kind _ body next => body.MarkersFit (place.inside kind) ∧ next.MarkersFit place
  | place, .choice _ body alternative next =>
    body.MarkersFit place ∧ alternative.MarkersFit place ∧ next.MarkersFit place

/-! ### Direct evaluation -/

/-- What a value tag shows: the marker of the loop around it, or else a value of the scope. -/
def Engine.showContent (engine : Engine) (loop : Option Entry) (scope : Scope)
    (content : List CodePoint) : Except Fault (List CodePoint) :=
  match loopMarker? loop content with
  | some text => .ok text
  | none => engine.tagText scope (.parse content)

/-- What a condition shows, of two texts that may fail. -/
def evalChoice (scope : Scope) (expression : List CodePoint)
    (present absent : Except Fault (List CodePoint)) : Except Fault (List CodePoint) := do
  if isPresent (← scope.resolve expression) then present else absent

/-- What a block shows, `eval` being what its body shows for an entry and in a scope. -/
def evalBlock (eval : Option Entry → Scope → Except Fault (List CodePoint)) (loop : Option Entry)
    (scope : Scope) (kind : BlockKind) (expression : List CodePoint) : Except Fault (List CodePoint) :=
  match kind with
  | .whenSet => evalChoice scope expression (eval loop scope) (.ok [])
  | .whenUnset => evalChoice scope expression (.ok []) (eval loop scope)
  | .forEach => do
    let pieces ← (entriesOf (← scope.resolve expression)).mapM fun entry =>
      eval (some entry) (entry.scope scope)
    return pieces.flatten
  | .within => do
    match ← scope.target expression with
    | some v => if isPresent (some v) then eval none (scope.enter v) else return []
    | none => return []

/-- What a tree shows in a scope, `loop` being the entry of the loop around it. -/
def Tree.eval (engine : Engine) : Tree → Option Entry → Scope → Except Fault (List CodePoint)
  | .nil, _, _ => return []
  | .text literal next, loop, scope => do
    return literal.chars ++ (← next.eval engine loop scope)
  | .value content next, loop, scope => do
    return (← engine.showContent loop scope content.chars) ++ (← next.eval engine loop scope)
  | .block kind expression body next, loop, scope => do
    return (← evalBlock (body.eval engine) loop scope kind expression.chars) ++
      (← next.eval engine loop scope)
  | .choice expression body alternative next, loop, scope => do
    return (← evalChoice scope expression.chars (body.eval engine loop scope)
      (alternative.eval engine loop scope)) ++ (← next.eval engine loop scope)

end TripProposal.Template
