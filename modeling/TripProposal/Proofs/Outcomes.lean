import Mathlib.Tactic.Common

/-!
# Outcomes

A step that can fail is followed by another one, its result is used, or its fault is put into
another. What such a combination makes is made by its parts.
-/

namespace TripProposal

variable {ε ε' α β : Type} {fault : ε}

/-- One step after another makes what the second makes of a result of the first. -/
lemma bind_eq_ok_iff {x : Except ε α} {f : α → Except ε β} {b : β} :
    (x >>= f) = .ok b ↔ ∃ a, x = .ok a ∧ f a = .ok b := by
  cases x <;> simp [bind, Except.bind]

lemma map_eq_ok_iff {x : Except ε α} {f : α → β} {b : β} :
    x.map f = .ok b ↔ ∃ a, x = .ok a ∧ f a = b := by
  cases x <;> simp [Except.map]

/-- Using a result does not fail. -/
lemma exists_map_eq_ok {x : Except ε α} {f : α → β} :
    (∃ b, x.map f = .ok b) ↔ ∃ a, x = .ok a := by
  simp [map_eq_ok_iff]

lemma mapError_eq_ok {x : Except ε α} {f : ε → ε'} {a : α} :
    x.mapError f = .ok a ↔ x = .ok a := by
  cases x <;> simp [Except.mapError]

/-- A fault is one of the step whose result would have been used. -/
lemma eq_error_of_map {x : Except ε α} {f : α → β} (h : x.map f = .error fault) :
    x = .error fault := by
  cases x with
  | ok a => cases h
  | error fault' => exact congrArg Except.error (Except.error.inj h)

lemma exists_error_iff {x : Except ε α} : (∃ fault, x = .error fault) ↔ ¬ ∃ a, x = .ok a := by
  cases x <;> simp

end TripProposal
