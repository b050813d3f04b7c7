import TripProposal.Template.Display
import TripProposal.Template.Scope
import TripProposal.Template.Segment

/-!
# Rendering

A template is rendered segment by segment. A condition renders one of its two branches, a loop
its body once for every entry, a `with` block its body inside a value.

Loops work on text: the markers for position, key and plain items are replaced in the body before
it is rendered, so text from the data becomes part of the template. Data can therefore unfold
without end, and the number of levels that may open inside each other is bounded by a depth.
-/

namespace TripProposal.Template

open Text

/-! ### Outcomes -/

/-- What rendering yields: the text so far, the contents of the openers that nothing closes, and
the fault that ended it, if one did. -/
structure Rendering where
  text : List CodePoint
  /-- Contents of the openers shown as they are. -/
  unclosed : List (List CodePoint)
  fault? : Option Fault
deriving DecidableEq

namespace Rendering

/-- Nothing. -/
def empty : Rendering := ⟨[], [], none⟩

/-- A text. -/
def ofText (text : List CodePoint) : Rendering := ⟨text, [], none⟩

/-- A fault. -/
def failed (fault : Fault) : Rendering := ⟨[], [], some fault⟩

/-- One rendering followed by another, which a fault in the first forestalls. -/
def andThen (first : Rendering) (second : Unit → Rendering) : Rendering :=
  match first.fault? with
  | some _ => first
  | none =>
    let next := second ()
    ⟨first.text ++ next.text, first.unclosed ++ next.unclosed, next.fault?⟩

/-- A text that may have failed. -/
def ofExcept : Except Fault (List CodePoint) → Rendering
  | .ok text => ofText text
  | .error fault => failed fault

/-- The rendering that a value decides, if it can be found. -/
def ofFound {α : Type} (found : Except Fault α) (next : α → Rendering) : Rendering :=
  match found with
  | .ok v => next v
  | .error fault => failed fault

/-- The renderings of a list one after the other. -/
def concatMap {α : Type} (f : α → Rendering) : List α → Rendering
  | [] => empty
  | a :: rest => (f a).andThen fun _ => concatMap f rest

end Rendering

/-! ### Values -/

/-- What rendering depends on besides template and data. -/
structure Engine where
  showsStructure : Bool
  now : Calendar.Moment

/-- The value that a helper shows. -/
def PathHelper.apply (helper : PathHelper) (v : Option Value) : Except Fault (List CodePoint) :=
  match helper with
  | .encodeUri => displayUri v
  | .currency => displayCurrency v
  | .date => .ok (displayDate v)
  | .capitalize => .ok (displayCapitalized v)
  | .inspect => .ok (displayIndented v)

/-- A value shown by a plain path. -/
def Engine.showPlain (engine : Engine) (v : Option Value) : List CodePoint :=
  match v with
  | some (.list _) | some (.object _) => if engine.showsStructure then display v else []
  | _ => display v

/-- What a value tag shows in a scope. -/
def Engine.tagText (engine : Engine) (scope : Scope) : Tag → Except Fault (List CodePoint)
  | .timestamp => .ok (engine.now.stamp?.getD engine.now.localStamp).toList
  | .helper h path => (scope.resolve path).bind h.apply
  | .pluralize path singular plural? =>
    (scope.resolve path).bind fun v => displayCount v singular plural?
  | .fallback path text => (scope.resolve path).map (displayOr text)
  | tag => (scope.resolve tag.expression).map engine.showPlain

/-! ### Blocks -/

/-- An entry of a collection: key, position and value. -/
structure Entry where
  /-- Key of the entry, for a list its position. -/
  key : List CodePoint
  position : Nat
  value : Value

/-- The entries of a list or an object; other values have none. -/
def entriesOf : Option Value → List Entry
  | some (.list items) => items.mapIdx fun n v => ⟨decimal n, n, v⟩
  | some (.object fields) => fields.mapIdx fun n (key, v) => ⟨key.toList, n, v⟩
  | _ => []

/-- The marker for the position of an entry. -/
def indexMarker : List CodePoint := delimited "@index".codePoints

/-- The marker for the key of an entry. -/
def keyMarker : List CodePoint := delimited "@key".codePoints

/-- The marker for an entry that is neither a list nor an object. -/
def itemMarker : List CodePoint := delimited "this".codePoints

/-- Whether a value opens a scope of its own inside a loop. -/
def opensScope : Value → Bool
  | .list _ | .object _ => true
  | _ => false

/-- The body of a loop for one entry, its markers filled in. -/
def Entry.body (entry : Entry) (body : List CodePoint) : List CodePoint :=
  let body := replaceAll keyMarker entry.key (replaceAll indexMarker (decimal entry.position) body)
  if opensScope entry.value then body else replaceAll itemMarker (display (some entry.value)) body

/-- The scope of a loop body for one entry. -/
def Entry.scope (entry : Entry) (scope : Scope) : Scope :=
  if opensScope entry.value then scope.enter entry.value else scope

/-- The branch of a condition that shows, if any. -/
def branch? (present : Bool) (body : List CodePoint) : Option (List CodePoint) :=
  match present, elseOffset? body with
  | true, none => some body
  | true, some n => some (body.take n)
  | false, some n => some (body.drop (n + elseTag.length))
  | false, none => none

/-- The value stored in an object or list under a key that is itself a value. -/
def lookup (collection key : Option Value) : Except Fault (Option Value) :=
  match collection, key with
  | _, none | _, some .null => .ok none
  | some (.object fields), key => .ok (Fields.get? (Text.ofList (display key)) fields)
  | some (.list items), key =>
    (indexOf? (display key)).map fun index => index.bind fun n => items[n]?
  | _, _ => .ok none

/-- The value that a `with` block enters: at a path, or looked up by a value at another path. -/
def Scope.target (scope : Scope) (expression : List CodePoint) : Except Fault (Option Value) :=
  match parseLookup? expression with
  | none => scope.resolve expression
  | some (object, key) =>
    (scope.resolve object).bind fun collection =>
      (scope.resolve key).bind fun key => lookup collection key

/-- A block, `render` being how its body is rendered. -/
def renderBlock (render : Scope → List CodePoint → Rendering) (scope : Scope) (kind : BlockKind)
    (expression body : List CodePoint) : Rendering :=
  match kind with
  | .whenSet =>
    .ofFound (scope.resolve expression) fun v =>
      match branch? (isPresent v) body with
      | some branch => render scope branch
      | none => .empty
  | .whenUnset =>
    .ofFound (scope.resolve expression) fun v =>
      if isPresent v then .empty else render scope body
  | .forEach =>
    .ofFound (scope.resolve expression) fun v =>
      .concatMap (fun entry => render (entry.scope scope) (entry.body body)) (entriesOf v)
  | .within =>
    .ofFound (scope.target expression) fun v =>
      match v with
      | some value => if isPresent (some value) then render (scope.enter value) body else .empty
      | none => .empty

/-! ### Templates -/

/-- One segment, `render` being how the bodies of blocks are rendered. -/
def Engine.renderSegment (engine : Engine) (render : Scope → List CodePoint → Rendering)
    (scope : Scope) : Segment → Rendering
  | .text text => .ofText text
  | .stray content => .ofText (delimited content)
  | .unclosed content => ⟨delimited content, [content], none⟩
  | .value tag => .ofExcept (engine.tagText scope tag)
  | .block kind expression body => renderBlock render scope kind expression body

/-- Render a template in a scope, with at most `depth` levels inside each other. -/
def Engine.renderAt (engine : Engine) : Nat → Scope → List CodePoint → Rendering
  | 0, _, _ => .failed .tooDeep
  | depth + 1, scope, template =>
    .concatMap (engine.renderSegment (engine.renderAt depth) scope) (segments template)

/-- How many levels may open inside each other: as many as the template can write down itself,
and more for the blocks that come with the data. -/
def depthFor (template : List CodePoint) : Nat :=
  template.length + 10000

/-- Render a template with a document. -/
def Engine.render (engine : Engine) (template : Text) (document : Value) : Rendering :=
  engine.renderAt (depthFor template.toList) (.root document) template.toList

end TripProposal.Template
