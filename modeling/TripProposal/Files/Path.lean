import TripProposal.Text.Search

/-!
# Paths

A path is the list of its parts. Empty parts and single points mean nothing and are left out. An
absolute path starts with the part `/`, or with `//` when exactly two strokes stand in front: these
are different paths, though they lead to the same place. Two points, which lead to the directory
above, stay: where they lead depends on the directories there are.
-/

namespace TripProposal

open Text

/-- A path, by its parts. -/
abbrev Path := List Text

namespace Path

/-- The part that an absolute path starts with. -/
def rootPart : Text := "/"

/-- The part that a path with two strokes in front starts with. -/
def doubleRootPart : Text := "//"

/-- The first part of a path that starts with strokes. -/
def rootOf? : List CodePoint → Option Text
  | '/' :: '/' :: '/' :: _ => some rootPart
  | '/' :: '/' :: _ => some doubleRootPart
  | '/' :: _ => some rootPart
  | _ => none

/-- The path that a text spells. -/
def parse (s : Text) : Path :=
  (rootOf? s.toList).toList ++ ((splitAtMark '/' s.toList).map Text.ofList).filter fun part : Text =>
    part ≠ "" ∧ part ≠ "."

/-- Whether a part stands for the root. -/
def isRoot (part : Text) : Bool :=
  part == rootPart || part == doubleRootPart

/-- Whether a path starts from the root. -/
def isAbsolute (path : Path) : Bool :=
  path.head?.any isRoot

/-- The path that leads to the same place with a single stroke in front. -/
def grounded : Path → Path
  | [] => []
  | first :: rest => (if first = doubleRootPart then rootPart else first) :: rest

/-- The path as text. -/
def text (path : Path) : Text :=
  match path with
  | [] => "."
  | first :: rest =>
    if isRoot first then first ++ Text.intercalate "/" rest else Text.intercalate "/" path

/-- The last part, empty for the empty path. -/
def name (path : Path) : Text :=
  (path.getLast?).getD ""

/-- The path without its last part. -/
def parent (path : Path) : Path :=
  path.dropLast

/-- A name before and from its last point; a point at either end does not count. -/
def cutSuffix (name : List CodePoint) : List CodePoint × List CodePoint :=
  let tail := (name.reverse.takeWhile (· ≠ .char '.')).reverse
  let stem := name.take (name.length - tail.length - 1)
  if name.contains '.' && !tail.isEmpty && !stem.isEmpty then (stem, '.' :: tail) else (name, [])

/-- The name without its suffix. -/
def stem (path : Path) : Text :=
  Text.ofList (cutSuffix path.name.toList).1

/-- The suffix of the name, with its point. -/
def suffix (path : Path) : Text :=
  Text.ofList (cutSuffix path.name.toList).2

end Path

end TripProposal
