import TripProposal.Number.Binary64
import TripProposal.Text.CodePoint

/-!
# Values of a trip document

Trip documents, profiles and settings files are loosely typed trees: any branch may be missing or
hold a value of another type. `Value` is the type of such trees. Objects keep their fields in the
order in which they were written; storing under a key that is there keeps its place, a new key
goes last. A missing value is no `Value` but the absence of one in an `Option`.
-/

namespace TripProposal

open Number

/-- A value of a trip document. -/
inductive Value
  | null
  | bool (b : Bool)
  /-- A whole number of any size. -/
  | int (n : Int)
  | float (x : Binary64)
  | text (s : Text)
  | list (items : List Value)
  /-- Named values in order. -/
  | object (fields : List (Text × Value))

instance : Inhabited Value := ⟨.null⟩

/-- The fields of an object, in order. -/
abbrev Fields := List (Text × Value)

/-! ### Fields -/

namespace Fields

/-- The value stored under a key. -/
def get? (key : Text) : Fields → Option Value
  | [] => none
  | (k, v) :: rest => if k = key then some v else get? key rest

/-- Whether a key is there. -/
def has (key : Text) (fields : Fields) : Bool :=
  (get? key fields).isSome

/-- Store a value: in place of the one under that key, or at the end. -/
def put (key : Text) (value : Value) : Fields → Fields
  | [] => [(key, value)]
  | (k, v) :: rest => if k = key then (k, value) :: rest else (k, v) :: put key value rest

/-- Store several values one after the other. -/
def putAll (updates fields : Fields) : Fields :=
  updates.foldl (fun acc (k, v) => put k v acc) fields

/-- The fields without a key. -/
def erase (key : Text) (fields : Fields) : Fields :=
  fields.filter fun (k, _) => k ≠ key

/-- The fields of the object under a key, none when there is no object. -/
def objectAt (key : Text) (fields : Fields) : Fields :=
  match get? key fields with
  | some (.object inner) => inner
  | _ => []

/-- The items of the list under a key, none when there is no list. -/
def listAt (key : Text) (fields : Fields) : List Value :=
  match get? key fields with
  | some (.list items) => items
  | _ => []

/-- Build fields from entries that may repeat a key: the first place and the last value stay. -/
def ofEntries (entries : List (Text × Value)) : Fields :=
  putAll entries []

end Fields

namespace Value

/-! ### Reading by type -/

/-- The fields of an object. -/
def fields? : Value → Option Fields
  | .object fields => some fields
  | _ => none

/-- The items of a list. -/
def items? : Value → Option (List Value)
  | .list items => some items
  | _ => none

/-- The characters of a text. -/
def text? : Value → Option Text
  | .text s => some s
  | _ => none

/-- Whether the value is an object. -/
def isObject : Value → Bool
  | .object _ => true
  | _ => false

/-- Whether the value is a list. -/
def isList : Value → Bool
  | .list _ => true
  | _ => false

/-- Whether the value is a text. -/
def isText : Value → Bool
  | .text _ => true
  | _ => false

/-- Whether the value is an explicit nothing. -/
def isNull : Value → Bool
  | .null => true
  | _ => false

/-- The value of a field; nothing is found in a value that is no object. -/
def field? (key : Text) (v : Value) : Option Value :=
  match v with
  | .object fields => Fields.get? key fields
  | _ => none

/-- The value of a field, an absent one counting as `null`. -/
def fieldOrNull (key : Text) (v : Value) : Value :=
  (v.field? key).getD .null

/-- The text of a field, empty unless it holds one. -/
def textField (key : Text) (v : Value) : Text :=
  match v.field? key with
  | some (.text s) => s
  | _ => ""

/-- The objects among the items of a list, nothing for other values. -/
def objectsOf : Option Value → List Fields
  | some (.list items) => items.filterMap fields?
  | _ => []

/-! ### Filled values -/

/-- Whether a value counts as filled in: not null, false, a zero, nor anything empty. -/
def isFilled : Value → Bool
  | .null => false
  | .bool b => b
  | .int n => n != 0
  | .float x => !x.isZero
  | .text s => s != ""
  | .list items => !items.isEmpty
  | .object fields => !fields.isEmpty

/-- The value if it is filled. -/
def filled? (v : Value) : Option Value :=
  if v.isFilled then some v else none

/-- The value if it is there and filled, or else a fallback. -/
def filledOr (fallback : Value) (v : Option Value) : Value :=
  (v.bind filled?).getD fallback

/-- The first filled value among the named fields. -/
def firstFilled? (keys : List Text) (fields : Fields) : Option Value :=
  keys.findSome? fun key => (Fields.get? key fields).bind filled?

/-! ### Sameness -/

/-- The number that a value counts as; flags count as one and zero. -/
def whole? : Value → Option Int
  | .bool b => some (if b then 1 else 0)
  | .int n => some n
  | _ => none

/-- Equality of two numbers, none unless both values count as numbers. -/
def numbersEqual? (a b : Value) : Option Bool :=
  match a, b with
  | .float x, .float y => some (x.equals y)
  | .float x, v | v, .float x => v.whole?.map x.equalsInt
  | a, b => match a.whole?, b.whole? with
    | some m, some n => some (m == n)
    | _, _ => none

/-- Whether the value is a NaN. -/
def isNaN : Value → Bool
  | .float x => x.isNaN
  | _ => false

mutual

/-- Sameness, by which a list is searched for a value: numbers are the same by value whatever their
type, objects whatever their order. A NaN equals no number, but a document has only one, and that
is found where it stands. -/
def sameAs (a : Value) : Value → Bool
  | .null => a.isNull
  | .bool b => numbersEqual? a (.bool b) == some true
  | .int n => numbersEqual? a (.int n) == some true
  | .float x => numbersEqual? a (.float x) == some true || (a.isNaN && x.isNaN)
  | .text s => a.text? == some s
  | .list items =>
    match a with
    | .list others => sameItems others items
    | _ => false
  | .object fields =>
    match a with
    | .object others => others.length == fields.length && sameFields others fields
    | _ => false

/-- Sameness, item by item. -/
def sameItems (others : List Value) : List Value → Bool
  | [] => others.isEmpty
  | v :: rest =>
    match others with
    | [] => false
    | u :: us => sameAs u v && sameItems us rest

/-- Whether every field has a partner under its key that is the same. -/
def sameFields (others : Fields) : List (Text × Value) → Bool
  | [] => true
  | (k, v) :: rest =>
    (match Fields.get? k others with
     | some u => sameAs u v
     | none => false) && sameFields others rest

end

end Value

end TripProposal
