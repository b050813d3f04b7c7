import TripProposal.Template.BuiltIn
import TripProposal.Template.Selection
import TripProposal.Template.Store
import TripProposal.Template.Remark

/-!
# Template registries

A registry finds the text of a template by name. A caller may have a scope of its own: the text
stored in the scope comes first, then the one shared by all, and for the default template the
built-in one. Empty texts count as missing. What was found is remembered until it is forgotten on
purpose, whatever happens to the store.
-/

namespace TripProposal.Template

open Text

/-- Where the text of a template comes from. -/
inductive Tier
  | inScope
  | shared
  | builtIn
deriving DecidableEq

/-- The name of a tier. -/
def Tier.name : Tier → Text
  | inScope => "scoped"
  | shared => "shared"
  | builtIn => "built-in"

/-- What stands between scope and name in a key. -/
def keySpace : Text := "_templates/"

/-- A scope; the empty one is none. -/
def scope? (scope : Option Text) : Option Text :=
  scope.filter (· ≠ "")

/-- Where the text of a template is looked for: tiers and keys, in order. -/
def placesFor (name : Text) (scope : Option Text) : List (Tier × Text) :=
  ((scope? scope).map fun s => (Tier.inScope, s ++ keySpace ++ name)).toList ++
    [(.shared, keySpace ++ name)]

/-- The keys that are checked for a template, in order. -/
def keysFor (name : Text) (scope : Option Text) : List Text :=
  (placesFor name scope).map (·.2)

/-! ### Missing templates -/

/-- A template that no tier has. -/
structure NotFound where
  name : Text
  scope : Option Text
  keys : List Text
deriving DecidableEq

/-- The complaint about a missing template. -/
def NotFound.message (missing : NotFound) : Text :=
  Text.intercalate "\n" (("Template '" ++ missing.name ++ "' not found") ::
    ((scope? missing.scope).map fun s : Text => "Scope: " ++ s).toList ++
    (if missing.keys.isEmpty then []
     else ["Checked keys: " ++ Text.intercalate ", " missing.keys]))

/-- Why there is no text for a template. -/
inductive Unresolved
  | missing (missing : NotFound)
  /-- A file that is checked for the template has no text. -/
  | unreadable (fault : NotText)
deriving DecidableEq

/-! ### Looking up -/

/-- The report of a key under which nothing is stored. -/
def missingKeyRemark (key : Text) : LogEntry :=
  remark .debug ("Template key missing: " ++ key)

/-- The report of the tier that had a template. -/
def resolvedRemark (name : Text) (scope : Option Text) (tier : Tier) : LogEntry :=
  let placed : Text := match scope? scope with
    | some s => " for scope " ++ s
    | none => ""
  remark .info ("Resolved template '" ++ name ++ "' from " ++ tier.name ++ " tier" ++ placed)

/-- The first text that is stored at one of the places, with its tier; the keys of the places
before it are reported. A file without a text ends the search. -/
def searchPlaces (store : Store) : List (Tier × Text) → Logged NotText (Option (Tier × Text))
  | [] => .ok none
  | (tier, key) :: rest =>
    match store.get? key with
    | .error fault => .error fault
    | .ok found =>
      match found.filter (fun text : Text => text ≠ "") with
      | some text => .ok (some (tier, text))
      | none => (Logged.report [missingKeyRemark key]).andThen fun _ => searchPlaces store rest

/-- The text of a template and its tier. -/
def Store.resolve (store : Store) (name : Text) (scope : Option Text) :
    Logged Unresolved Text :=
  ((searchPlaces store (placesFor name scope)).mapError .unreadable).andThen fun found =>
    let found := found.orElse fun _ =>
      if name = defaultName then some (.builtIn, builtInText) else none
    match found with
    | some (tier, text) => ⟨[resolvedRemark name scope tier], .ok text⟩
    | none => .error (.missing ⟨name, scope, keysFor name scope⟩)

/-! ### Registries -/

/-- A registry: a store, and what was found in it. -/
structure Registry where
  store : Store := .empty
  /-- Remembered texts by scope and name. -/
  cache : List ((Option Text × Text) × Text) := []

namespace Registry

/-- The text remembered for a template. -/
def cached? (r : Registry) (name : Text) (scope : Option Text) : Option Text :=
  r.cache.lookup (scope? scope, name)

/-- Whether a template is remembered. -/
def isCached (r : Registry) (name : Text) (scope : Option Text) : Bool :=
  (r.cached? name scope).isSome

/-- The text of a template, which is remembered from then on. -/
def get (r : Registry) (name : Text) (scope : Option Text) :
    Logged Unresolved Text × Registry :=
  match r.cached? name scope with
  | some text => (.ok text, r)
  | none =>
    let found := r.store.resolve name scope
    match found.outcome with
    | .ok text => (found, { r with cache := ((scope? scope, name), text) :: r.cache })
    | .error _ => (found, r)

/-- Forget all texts. -/
def clear (r : Registry) : Registry :=
  { r with cache := [] }

/-- Store a text under a key. -/
def put (r : Registry) (key text : Text) : Registry :=
  { r with store := r.store.put key text }

end Registry

/-! ### Listings -/

/-- The templates that a caller can see. -/
structure Listing where
  inScope : List Text
  shared : List Text
deriving DecidableEq

/-- The name of a key behind its first characters; empty names and names that start with an
underscore are hidden. -/
def visibleName? (start key : Text) : Option Text :=
  let name := key.toList.drop start.length
  if name.isEmpty || name.head? == some (.char '_') then none else some (Text.ofList name)

/-- The visible names of the keys that start with the given characters. -/
def Store.namesFrom (store : Store) (start : Text) : List Text :=
  (store.keysFrom start).filterMap (visibleName? start)

/-- The templates that a caller can see in a store. -/
def Store.listing (store : Store) (scope : Option Text) : Listing where
  inScope := match scope? scope with
    | some s => store.namesFrom (s ++ keySpace)
    | none => []
  shared := store.namesFrom keySpace

/-- The name that a caller gets without a choice: the default where it is shared, or else the
first shared name. -/
def Listing.defaultTemplate (listing : Listing) : Text :=
  if listing.shared.contains defaultName then defaultName
  else listing.shared.head?.getD defaultName

end TripProposal.Template
