import TripProposal.Files.Tree

/-!
# Template stores

Templates are stored as texts under keys. A store is a table in memory or a directory: there the
text of a key stands in the file `key.html`, and a line ends with a line feed whatever ends it in
the file. Listing a directory gives the key of everything whose name ends in `.html`, directories
included.
-/

namespace TripProposal.Template

open Text

/-- A store of templates. -/
inductive Store
  /-- Texts by their keys, in order of insertion. -/
  | memory (templates : List (Text × Text))
  | directory (tree : FileTree) (root : Path)

namespace Store

/-- A store without templates. -/
def empty : Store := .memory []

/-- The table with a text stored under a key, in place of the one that was there. -/
def putText (key text : Text) : List (Text × Text) → List (Text × Text)
  | [] => [(key, text)]
  | (k, t) :: rest => if k = key then (k, text) :: rest else (k, t) :: putText key text rest

/-- The suffix of template files. -/
def fileSuffix : Text := ".html"

/-- The path of a key below the directory of a store. -/
def pathOf (key : Text) : Path :=
  Path.parse (key ++ fileSuffix)

/-- The path of a key; an absolute one leaves the directory. -/
def pathFor (root : Path) (key : Text) : Path :=
  let path := pathOf key
  if path.isAbsolute then path else root ++ path

/-- The text stored under a key, if there is one. -/
def get? (key : Text) : Store → Except NotText (Option Text)
  | .memory templates => .ok (templates.lookup key)
  | .directory tree root =>
    (tree.read? (pathFor root key)).map fun text? => text?.map (onString unifyNewlines)

/-- Store a text under a key. -/
def put (key text : Text) : Store → Store
  | .memory templates => .memory (putText key text templates)
  | .directory tree root => .directory (tree.write (pathFor root key) text) root

/-- The key of a path below the directory of a store, if its name ends in the suffix. A name that
is nothing but the suffix stays as it is. -/
def keyOf? (path : Path) : Option Text :=
  let name := path.name.toList
  if fileSuffix.toList.isSuffixOf name then
    let stem := name.take (name.length - fileSuffix.length)
    some (Text.intercalate "/" (path.parent ++ [Text.ofList (if stem.isEmpty then name else stem)]))
  else none

/-- All keys of a store in no particular order. -/
def keys : Store → List Text
  | .memory templates => templates.map (·.1)
  | .directory tree root =>
    match tree.resolve? root with
    | some root =>
      if tree.isDirectory root then (tree.pathsBelow root).filterMap keyOf? else []
    | none => []

/-- The keys that start with the given characters, in the order of code points. -/
def keysFrom (start : Text) (store : Store) : List Text :=
  (store.keys.filter fun key => start.toList.isPrefixOf key.toList).mergeSort fun a b =>
    precedes a.toList b.toList

end Store

end TripProposal.Template
