import TripProposal.Value.Basic

/-!
# Choosing a template

A proposal is made from the template that is asked for, or else the one that the trip names, or
else the one that the advisor prefers. The name `default` is never a choice but what remains
without one.
-/

namespace TripProposal.Template

/-- The name of the template that is used without a choice. -/
def defaultName : Text := "default"

/-- The name that a value chooses, if it is one. -/
def choice? : Value → Option Text
  | .text s => if s = "" ∨ s = defaultName then none else some s
  | _ => none

/-- The template to use for a request and the preference of the advisor. -/
def nameFor (requested preferred : Value) : Text :=
  ((choice? requested).orElse fun _ => choice? preferred).getD defaultName

/-- The template that a trip names: in its `meta` section, or else directly. -/
def tripChoice? (trip : Value) : Option Text :=
  (choice? ((trip.fieldOrNull "meta").fieldOrNull "template")).orElse fun _ =>
    choice? (trip.fieldOrNull "template")

/-- The template to use for a request, a trip and the preference of the advisor. -/
def nameForTrip (requested trip preferred : Value) : Text :=
  match choice? requested, tripChoice? trip with
  | some name, _ => name
  | none, some name => name
  | none, none => nameFor .null preferred

end TripProposal.Template
