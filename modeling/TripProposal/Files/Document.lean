import TripProposal.Files.Tree
import TripProposal.Text.Case
import TripProposal.Value.Read

/-!
# Stored documents

Trips, profiles and settings are stored as JSON or as YAML. Of YAML only what is JSON as well is
read; an empty document counts as one without fields, and a text alone as a field without a value.
-/

namespace TripProposal

open Text

/-- Why a document cannot be read. -/
inductive DocumentFault
  | missing (path : Path)
  | isDirectory (path : Path)
  | notText (fault : NotText)
  | notJson
  | notYaml
  /-- The document is a number or a flag. -/
  | plainValue
deriving DecidableEq

/-- The document that a text holds as JSON. -/
def Value.ofJsonText (text : Text) : Except DocumentFault Value :=
  match ofJson? text.toList with
  | some v => .ok v
  | none => .error .notJson

/-- The document that a text holds as YAML. -/
def Value.ofYamlText (text : Text) : Except DocumentFault Value :=
  if (skipSpaces text.toList).isEmpty then .ok (.object [])
  else match ofJson? text.toList with
    | some .null => .ok (.object [])
    | some (.text s) => .ok (.object [(s, .null)])
    | some (.list items) => .ok (.list items)
    | some (.object fields) => .ok (.object fields)
    | some _ => .error .plainValue
    | none => .error .notYaml

namespace FileTree

/-- The text of the file that has to stand at a path. -/
def textAt (tree : FileTree) (path : Path) : Except DocumentFault Text :=
  match tree.find? path with
  | some (.file text) => .ok text
  | some .binary => .error (.notText ⟨path⟩)
  | some .directory => .error (.isDirectory path)
  | none => .error (.missing path)

/-- The document at a path: JSON if the suffix says so in any letter case, or else YAML. -/
def document (tree : FileTree) (path : Path) : Except DocumentFault Value :=
  (tree.textAt path).bind
    (if onString lower path.suffix = ".json" then Value.ofJsonText else Value.ofYamlText)

end FileTree

end TripProposal
