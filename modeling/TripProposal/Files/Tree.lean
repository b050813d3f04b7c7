import TripProposal.Files.Path

/-!
# Directory trees

The files and directories that the program can see. A file implies the directories above it, and
relative paths start from one directory of the tree. Not every file can be read: its bytes may be
those of no text.
-/

namespace TripProposal

/-- What stands at a path. -/
inductive FileNode
  | file (text : Text)
  /-- A file whose bytes are no text. -/
  | binary
  | directory
deriving DecidableEq

/-- Files and directories by their paths; the first of several entries for a path counts. -/
structure FileTree where
  entries : List (Path × FileNode) := []
  /-- The directory that relative paths start from. -/
  here : Path := []

/-- A file has to be read whose bytes are no text. -/
structure NotText where
  path : Path
deriving DecidableEq

/-- Why a file cannot be written. -/
inductive Obstacle
  /-- A file stands where its directory should be. -/
  | fileAsDirectory
  | belowFile
  | isDirectory
deriving DecidableEq

namespace FileTree

/-- Whether one path leads below another. -/
def isBelow (path above : Path) : Bool :=
  above.isPrefixOf path && path != above

/-- What stands at a path without steps upwards. -/
def node? (tree : FileTree) (path : Path) : Option FileNode :=
  match tree.entries.lookup path with
  | some node => some node
  | none =>
    if path.isEmpty || tree.entries.any (fun (other, _) => isBelow other path) then
      some .directory
    else none

/-- Whether a path without steps upwards leads to a directory. -/
def isDirectory (tree : FileTree) (path : Path) : Bool :=
  tree.node? path == some .directory

/-- The path without steps upwards that a path leads to from a directory. Every step upwards has to
leave a directory, and nothing above the tree can be seen. -/
def resolveFrom? (tree : FileTree) (here : Path) : Path → Option Path
  | [] => some here
  | part :: rest =>
    if part = ".." then
      if here.isEmpty || !tree.isDirectory here then none
      else tree.resolveFrom? here.dropLast rest
    else tree.resolveFrom? (here ++ [part]) rest

/-- The directory that a path starts from. -/
def startOf (tree : FileTree) (path : Path) : Path :=
  if path.isAbsolute then [] else tree.here

/-- The path without steps upwards that a path leads to. -/
def resolve? (tree : FileTree) (path : Path) : Option Path :=
  tree.resolveFrom? (tree.startOf path) path.grounded

/-- What a path leads to. -/
def find? (tree : FileTree) (path : Path) : Option FileNode :=
  (tree.resolve? path).bind tree.node?

/-- The text of the file that a path leads to, if there is a file. -/
def read? (tree : FileTree) (path : Path) : Except NotText (Option Text) :=
  match tree.find? path with
  | some (.file text) => .ok (some text)
  | some .binary => .error ⟨path⟩
  | some .directory | none => .ok none

/-! ### Writing -/

/-- The path without steps upwards that a path leads to once all directories on the way are there;
nothing above the tree can be reached. -/
def settle? (tree : FileTree) (path : Path) : Option Path :=
  path.grounded.foldlM (fun here (part : Text) =>
    if part = ".." then (if here.isEmpty then none else some here.dropLast)
    else some (here ++ [part])) (tree.startOf path)

/-- The tree with a file written and all directories on the way to it made. -/
def write (tree : FileTree) (path : Path) (text : Text) : FileTree :=
  match tree.settle? path with
  | some place => { tree with entries := (place, .file text) :: tree.entries }
  | none => tree

/-- Whether a path leads to a file once all directories on the way are there. -/
def isFileAt (tree : FileTree) (path : Path) : Bool :=
  match (tree.settle? path).bind tree.node? with
  | some (.file _) | some .binary => true
  | some .directory | none => false

/-- What stands in the way of writing a file. -/
def obstacle? (tree : FileTree) (path : Path) : Option Obstacle :=
  let above := (List.range path.length).map fun n => path.take n
  if above.any tree.isFileAt then
    some (if tree.isFileAt path.parent then .fileAsDirectory else .belowFile)
  else if (tree.settle? path).any tree.isDirectory then some .isDirectory
  else none

/-! ### Listing -/

/-- A path and the paths above it, the empty one left out. -/
def upwards (path : Path) : List Path :=
  (List.range path.length).map fun n => path.take (n + 1)

/-- The paths of all files and directories. -/
def paths (tree : FileTree) : List Path :=
  (tree.entries.flatMap fun (path, _) => upwards path).eraseDups

/-- The paths of all files and directories below a directory, as they lead from there. -/
def pathsBelow (tree : FileTree) (directory : Path) : List Path :=
  (tree.paths.filter (isBelow · directory)).map (·.drop directory.length)

end FileTree

end TripProposal
