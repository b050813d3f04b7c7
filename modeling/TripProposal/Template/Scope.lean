import TripProposal.Template.Fault
import TripProposal.Text.Digit
import TripProposal.Text.Search
import TripProposal.Value.Read

/-!
# Scopes

A path such as `days.0.title` walks through objects by key and through lists by position. It is
looked up in the current context and, if nothing is there, in the one context around it; contexts
further out are never consulted. A path that leads nowhere has no value, which is not the same as
an explicit `null`.
-/

namespace TripProposal.Template

open Text

/-- The position that a path segment names: none when the segment does not look like a number. -/
def indexOf? (segment : List CodePoint) : Except Fault (Option Nat) :=
  if !segment.isEmpty && segment.all isDigitLike then
    if segment.all isDecimalDigit && segment.length ≤ Value.maxDigits then
      .ok (some (valueOfDigits 0 (segment.filterMap digitValue?)))
    else .error (.notAnIndex segment)
  else .ok none

/-- One step of a path. -/
def step (v : Value) (segment : List CodePoint) : Except Fault (Option Value) :=
  match v with
  | .object fields => .ok (Fields.get? (Text.ofList segment) fields)
  | .list items =>
    if segment = "length".codePoints then .ok (some (.int items.length))
    else (indexOf? segment).map fun index => index.bind fun n => items[n]?
  | .text s =>
    .ok (if segment = "length".codePoints then some (.int s.toList.length) else none)
  | _ => .ok none

/-- Several steps of a path. -/
def walk (v : Value) : List (List CodePoint) → Except Fault (Option Value)
  | [] => .ok (some v)
  | segment :: rest =>
    match step v segment with
    | .ok (some next) => walk next rest
    | .ok none => .ok none
    | .error fault => .error fault

/-- The value that a path leads to; an empty path or `this` stays where it is. -/
def valueAt (v : Value) (path : List CodePoint) : Except Fault (Option Value) :=
  if path = [] ∨ path = "this".codePoints then .ok (some v)
  else walk v (splitAtMark '.' path)

/-- Whether a condition holds for a value: not for a missing one, `null`, `false`, an empty text
or an empty list. Zero and empty objects count as present. -/
def isPresent : Option Value → Bool
  | none => false
  | some .null => false
  | some (.bool b) => b
  | some (.text s) => s != ""
  | some (.list items) => !items.isEmpty
  | some _ => true

/-- A context with the one around it. -/
structure Scope where
  context : Value
  parent? : Option Value

namespace Scope

/-- The scope of a whole document. -/
def root (document : Value) : Scope := ⟨document, none⟩

/-- The scope inside a value: the current context is the one around it. -/
def enter (scope : Scope) (context : Value) : Scope := ⟨context, some scope.context⟩

/-- Look a path up in the context, then in the one around it. -/
def resolve (scope : Scope) (path : List CodePoint) : Except Fault (Option Value) :=
  match valueAt scope.context path with
  | .ok none =>
    match scope.parent? with
    | some parent => valueAt parent path
    | none => .ok none
  | found => found

end Scope

end TripProposal.Template
