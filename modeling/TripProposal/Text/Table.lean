import TripProposal.Text.CodePoint

/-!
# Character classes as interval tables

A class of characters is stored as the increasing list of code points at which membership
changes: the class starts at the first entry, ends before the second, starts again at the third,
and so on. A character belongs to the class exactly when an odd number of entries is at or below
it, and a binary search counts them.
-/

namespace TripProposal.Text

/-- Number of entries of `bounds` at or below `n`, searched between `lo` and `hi`. -/
def countUpTo (bounds : Array Nat) (n lo hi : Nat) : Nat :=
  if lo < hi then
    let mid := (lo + hi) / 2
    if bounds.getD mid 0 ≤ n then countUpTo bounds n (mid + 1) hi
    else countUpTo bounds n lo mid
  else lo
termination_by hi - lo

/-- Membership of a code point in the class that `bounds` describes. -/
def inTable (bounds : Array Nat) (n : Nat) : Bool :=
  countUpTo bounds n 0 bounds.size % 2 == 1

/-- A run of letters whose case partner lies at a fixed distance: every `step`-th code point from
`first` to `last` is moved by `shift`. -/
structure CaseRun where
  first : Nat
  last : Nat
  /-- Distance between neighbouring members. -/
  step : Nat
  /-- Distance from a member to its partner. -/
  shift : Int

/-- Whether a code point is a member of the run. -/
def CaseRun.has (run : CaseRun) (n : Nat) : Bool :=
  run.first ≤ n && n ≤ run.last && (n - run.first) % run.step == 0

/-- The partner of a character in the first run that holds it, or the character itself. -/
def shiftCase (runs : List CaseRun) (c : CodePoint) : CodePoint :=
  match runs.find? (·.has c.toNat) with
  | some run => CodePoint.ofNat (c.toNat + run.shift).toNat
  | none => c

end TripProposal.Text
