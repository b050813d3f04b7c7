import TripProposal.Text.Blank
import TripProposal.Text.Search

/-!
# Tags

A template is literal text with tags between double braces. A tag opens or closes a block, marks
the alternative of a condition, or inserts a value: a helper applied to a path, or a path alone.
`Tag.parse` classifies the trimmed content of a tag, and whatever fits no other form is a path;
`Tag.print` writes a tag in its plain form.
-/

namespace TripProposal.Template

open Text

/-! ### Vocabulary -/

/-- The kinds of blocks. -/
inductive BlockKind
  | whenSet
  | whenUnset
  | forEach
  /-- Shows its body inside a value. -/
  | within
deriving DecidableEq

namespace BlockKind

/-- All kinds of blocks. -/
def all : List BlockKind := [whenSet, whenUnset, forEach, within]

/-- The word that names a kind. -/
def word : BlockKind → Text
  | whenSet => "if"
  | whenUnset => "unless"
  | forEach => "each"
  | within => "with"

end BlockKind

/-- The helpers that take a path and nothing else. -/
inductive PathHelper
  | encodeUri
  | currency
  | date
  | capitalize
  | inspect
deriving DecidableEq

namespace PathHelper

/-- All helpers that take a path. -/
def all : List PathHelper := [encodeUri, currency, date, capitalize, inspect]

/-- The word that names a helper. -/
def word : PathHelper → Text
  | encodeUri => "encodeUri"
  | currency => "formatCurrency"
  | date => "formatDate"
  | capitalize => "capitalize"
  | inspect => "inspect"

end PathHelper

/-- A tag. Paths and expressions are kept as written. -/
inductive Tag
  | block (kind : BlockKind) (expression : List CodePoint)
  | close (name : List CodePoint)
  | otherwise
  | timestamp
  | helper (h : PathHelper) (path : List CodePoint)
  | pluralize (path singular : List CodePoint) (plural? : Option (List CodePoint))
  | fallback (path text : List CodePoint)
  | variable (path : List CodePoint)
deriving DecidableEq

/-! ### Delimiters -/

/-- The delimiter that opens a tag. -/
def openMark : List CodePoint := ['{', '{']

/-- The delimiter that closes a tag. -/
def closeMark : List CodePoint := ['}', '}']

/-- Content between delimiters. -/
def delimited (content : List CodePoint) : List CodePoint :=
  openMark ++ content ++ closeMark

/-- The tag that starts the alternative of a condition. -/
def elseTag : List CodePoint := delimited "else".codePoints

/-- How an opener of a kind starts, up to its expression. -/
def BlockKind.opener (kind : BlockKind) : List CodePoint :=
  openMark ++ .char '#' :: kind.word.toList ++ [.char ' ']

/-- The closer of a kind. -/
def BlockKind.closer (kind : BlockKind) : List CodePoint :=
  delimited ('/' :: kind.word.toList)

/-! ### Reading -/

/-- A text in double quotes, not empty, and what follows it. -/
def takeQuoted? (text : List CodePoint) : Option (List CodePoint × List CodePoint) :=
  match text with
  | '"' :: rest =>
    match rest.takeWhile (· ≠ .char '"'), rest.dropWhile (· ≠ .char '"') with
    | [], _ => none
    | inner, '"' :: after => some (inner, after)
    | _, _ => none
  | _ => none

/-- Whether nothing is left but a line feed. -/
def atEnd (text : List CodePoint) : Bool :=
  text == [] || text == [.char '\n']

/-- A path and a quoted text behind the name of a helper, and what follows them. -/
def takePathAndQuoted? (name : Text) (content : List CodePoint) :
    Option (List CodePoint × List CodePoint × List CodePoint) :=
  match (name.toList.isPrefixOf? content).bind takeGap? with
  | none => none
  | some rest =>
    match takeWord rest with
    | ([], _) => none
    | (path, rest) =>
      ((takeGap? rest).bind takeQuoted?).map fun (text, after) => (path, text, after)

/-- A content such as `pluralize nights "night" "nights"`, the plural being optional. -/
def parsePluralize? (content : List CodePoint) : Option Tag :=
  match takePathAndQuoted? "pluralize" content with
  | none => none
  | some (path, singular, rest) =>
    match (takeGap? rest).bind takeQuoted? with
    | some (plural, after) => if atEnd after then some (.pluralize path singular plural) else none
    | none => if atEnd rest then some (.pluralize path singular none) else none

/-- A content such as `default airline "TBD"`. -/
def parseFallback? (content : List CodePoint) : Option Tag :=
  match takePathAndQuoted? "default" content with
  | some (path, text, rest) => if atEnd rest then some (.fallback path text) else none
  | none => none

/-- A content such as `#if meta.phase`. -/
def parseBlock? (content : List CodePoint) : Option Tag :=
  BlockKind.all.findSome? fun kind =>
    ((.char '#' :: kind.word.toList ++ [.char ' '] : List CodePoint).isPrefixOf? content).map
      fun rest => .block kind (trim rest)

/-- A content such as `formatDate meta.lastUpdated`. -/
def parseHelper? (content : List CodePoint) : Option Tag :=
  PathHelper.all.findSome? fun helper =>
    ((helper.word.toList ++ [.char ' ']).isPrefixOf? content).bind fun rest =>
      if isAllBlank rest then none else some (.helper helper (trim rest))

/-- The tag with the given trimmed content. -/
def Tag.parse (content : List CodePoint) : Tag :=
  match parseBlock? content with
  | some tag => tag
  | none =>
    match content with
    | '/' :: rest => .close (trim rest)
    | _ =>
      if content = "else".codePoints then .otherwise
      else if content = "timestamp".codePoints then .timestamp
      else
        ((parseHelper? content).orElse fun _ => (parsePluralize? content).orElse fun _ =>
          parseFallback? content).getD (.variable content)

/-- The paths of `(lookup object key)`. -/
def parseLookup? (expression : List CodePoint) : Option (List CodePoint × List CodePoint) :=
  match ("(lookup".codePoints.isPrefixOf? expression).bind takeGap? with
  | none => none
  | some rest =>
    match takeWord rest with
    | ([], _) => none
    | (object, rest) =>
      let gap := rest.takeWhile isBlank
      let keyAndEnd := rest.dropWhile isBlank
      let key := keyAndEnd.takeWhile (· ≠ .char ')')
      match keyAndEnd.dropWhile (· ≠ .char ')') with
      | ')' :: after =>
        if atEnd after && (!key.isEmpty && !gap.isEmpty || 2 ≤ gap.length) then
          some (object, trim key)
        else none
      | _ => none

/-! ### Parts of a tag -/

namespace Tag

/-- The word for the form of a tag. -/
def kindName : Tag → Text
  | .block kind _ => kind.word
  | .close _ => "close"
  | .otherwise => "else"
  | .timestamp => "timestamp"
  | .helper h _ => h.word
  | .pluralize .. => "pluralize"
  | .fallback .. => "default"
  | .variable _ => "variable"

/-- The path or expression of a tag, for a closer the name of its block. -/
def expression : Tag → List CodePoint
  | .block _ expression => expression
  | .close name => name
  | .otherwise | .timestamp => []
  | .helper _ path => path
  | .pluralize path _ _ => path
  | .fallback path _ => path
  | .variable path => path

/-- The quoted arguments of a tag. A missing plural is kept as missing. -/
def arguments : Tag → List (Option (List CodePoint))
  | .pluralize _ singular plural? => [some singular, plural?]
  | .fallback _ text => [some text]
  | _ => []

/-- Whether a tag opens a block. -/
def isBlock : Tag → Bool
  | .block .. => true
  | _ => false

/-- A quoted argument. -/
def quote (text : List CodePoint) : List CodePoint :=
  .char '"' :: text ++ [.char '"']

/-- The content of a tag in its plain form. -/
def print : Tag → List CodePoint
  | .block kind expression => .char '#' :: kind.word.toList ++ .char ' ' :: expression
  | .close name => '/' :: name
  | .otherwise => "else".codePoints
  | .timestamp => "timestamp".codePoints
  | .helper h path => h.word.toList ++ .char ' ' :: path
  | .pluralize path singular plural? =>
    "pluralize ".codePoints ++ path ++ .char ' ' :: quote singular ++
      (match plural? with
       | some plural => .char ' ' :: quote plural
       | none => [])
  | .fallback path text => "default ".codePoints ++ path ++ .char ' ' :: quote text
  | .variable path => path

end Tag

end TripProposal.Template
