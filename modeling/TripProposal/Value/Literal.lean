import TripProposal.Number.Shortest
import TripProposal.Text.Hex
import TripProposal.Text.Printable
import TripProposal.Value.Basic

/-!
# Values inside running text

A value that is put into a sentence as it is shows its literal form: `None`, `True`, `1.0`, the
characters of a text. Inside a list or an object texts are quoted, with single quotes unless the
text holds one and no double quote, and unprintable characters are escaped.
-/

namespace TripProposal.Value

open Text Number

/-- The characters that stand for one character between quotes `mark`. -/
def literalChar (mark c : CodePoint) : List CodePoint :=
  if c = mark ∨ c = '\\' then ['\\', c]
  else if c = '\t' then ['\\', 't']
  else if c = '\n' then ['\\', 'n']
  else if c = '\r' then ['\\', 'r']
  else if isPrintable c then [c]
  else if c.toNat < 0x100 then '\\' :: 'x' :: hexPadded 2 c.toNat
  else if c.toNat < 0x10000 then '\\' :: 'u' :: hexPadded 4 c.toNat
  else '\\' :: 'U' :: hexPadded 8 c.toNat

/-- The mark that a text is quoted with. -/
def quoteMark (cs : List CodePoint) : CodePoint :=
  if cs.contains '\'' && !cs.contains '"' then '"' else '\''

/-- A text between quotes. -/
def literalText (cs : List CodePoint) : List CodePoint :=
  quoteMark cs :: cs.flatMap (literalChar (quoteMark cs)) ++ [quoteMark cs]

mutual

/-- The literal form of a value that stands inside another. -/
def literal : Value → List CodePoint
  | .null => "None".codePoints
  | .bool b => if b then "True".codePoints else "False".codePoints
  | .int n => intText n
  | .float x => x.text
  | .text s => literalText s.toList
  | .list [] => ['[', ']']
  | .list (v :: rest) => .char '[' :: literal v ++ literalItems rest
  | .object [] => ['{', '}']
  | .object ((k, v) :: rest) =>
    .char '{' :: literalText k.toList ++ .char ':' :: .char ' ' :: literal v ++ literalFields rest

/-- The items of a list after the first, and the closing bracket. -/
def literalItems : List Value → List CodePoint
  | [] => [']']
  | v :: rest => .char ',' :: .char ' ' :: literal v ++ literalItems rest

/-- The fields of an object after the first, and the closing brace. -/
def literalFields : List (Text × Value) → List CodePoint
  | [] => ['}']
  | (k, v) :: rest =>
    .char ',' :: .char ' ' :: literalText k.toList ++ .char ':' :: .char ' ' :: literal v ++
      literalFields rest

end

/-- A value as running text: a text as it is, anything else in its literal form. -/
def inText : Value → Text
  | .text s => s
  | v => Text.ofList (literal v)

end TripProposal.Value
