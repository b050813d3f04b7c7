import TripProposal.Number.Shortest
import TripProposal.Text.Hex
import TripProposal.Value.Basic

/-!
# Values as JSON text

`compact` writes a value on one line without spaces, `indented` over several lines with two
spaces for each level. Texts are quoted; only quotes, backslashes and control characters are
escaped. Numbers that are not finite are written `NaN`, `Infinity` and `-Infinity`.
-/

namespace TripProposal.Value

open Text Number

/-- The characters that stand for one character inside quotes. -/
def escapeChar (c : CodePoint) : List CodePoint :=
  match c with
  | '"' => ['\\', '"']
  | '\\' => ['\\', '\\']
  | '\n' => ['\\', 'n']
  | '\r' => ['\\', 'r']
  | '\t' => ['\\', 't']
  | '\x08' => ['\\', 'b']
  | '\x0c' => ['\\', 'f']
  | c =>
    if c.toNat < 0x20 then
      ['\\', 'u', '0', '0', hexDigit (c.toNat / 16), hexDigit (c.toNat % 16)]
    else [c]

/-- A text in quotes. -/
def quoted (s : Text) : List CodePoint :=
  .char '"' :: s.toList.flatMap escapeChar ++ [.char '"']

mutual

/-- A value on one line. -/
def compact : Value → List CodePoint
  | .null => "null".codePoints
  | .bool b => if b then "true".codePoints else "false".codePoints
  | .int n => intText n
  | .float x => x.scriptText
  | .text s => quoted s
  | .list [] => ['[', ']']
  | .list (v :: rest) => .char '[' :: compact v ++ compactItems rest
  | .object [] => ['{', '}']
  | .object ((k, v) :: rest) => .char '{' :: quoted k ++ .char ':' :: compact v ++ compactFields rest

/-- The items of a list after the first, and the closing bracket. -/
def compactItems : List Value → List CodePoint
  | [] => [']']
  | v :: rest => .char ',' :: compact v ++ compactItems rest

/-- The fields of an object after the first, and the closing brace. -/
def compactFields : List (Text × Value) → List CodePoint
  | [] => ['}']
  | (k, v) :: rest => .char ',' :: quoted k ++ .char ':' :: compact v ++ compactFields rest

end

/-- A line break followed by two spaces for each level. -/
def lineBreak (level : Nat) : List CodePoint :=
  '\n' :: List.replicate (2 * level) ' '

mutual

/-- A value over several lines, its own lines being indented by `level`. -/
def indentedAt (level : Nat) : Value → List CodePoint
  | .null => "null".codePoints
  | .bool b => if b then "true".codePoints else "false".codePoints
  | .int n => intText n
  | .float x => x.scriptText
  | .text s => quoted s
  | .list [] => ['[', ']']
  | .list (v :: rest) =>
    .char '[' :: lineBreak (level + 1) ++ indentedAt (level + 1) v ++ indentedItems level rest
  | .object [] => ['{', '}']
  | .object ((k, v) :: rest) =>
    .char '{' :: lineBreak (level + 1) ++ quoted k ++ .char ':' :: .char ' ' ::
      indentedAt (level + 1) v ++
      indentedFields level rest

/-- The items of a list after the first, each on a line of its own. -/
def indentedItems (level : Nat) : List Value → List CodePoint
  | [] => lineBreak level ++ [.char ']']
  | v :: rest =>
    .char ',' :: lineBreak (level + 1) ++ indentedAt (level + 1) v ++ indentedItems level rest

/-- The fields of an object after the first, each on a line of its own. -/
def indentedFields (level : Nat) : List (Text × Value) → List CodePoint
  | [] => lineBreak level ++ [.char '}']
  | (k, v) :: rest =>
    .char ',' :: lineBreak (level + 1) ++ quoted k ++ .char ':' :: .char ' ' ::
      indentedAt (level + 1) v ++
      indentedFields level rest

end

/-- A value over several lines. -/
def indented (v : Value) : List CodePoint :=
  indentedAt 0 v

end TripProposal.Value
