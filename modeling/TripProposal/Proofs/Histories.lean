import Mathlib.Data.List.Basic
import Mathlib.Tactic.Common

/-!
# Histories

A history is a list of events, the latest last. What something remembers depends on an event in its
history after which nothing was forgotten.
-/

namespace TripProposal

variable {α : Type} {kept : α → Prop} {occurs : List α → α → Prop} {history : List α} {event : α}

/-- An event took place in a history, and what it led to was kept by all later events. What the
event has to be may depend on the history before it. -/
def Since (kept : α → Prop) (occurs : List α → α → Prop) (history : List α) : Prop :=
  ∃ before event after, history = before ++ event :: after ∧ occurs before event ∧
    ∀ later ∈ after, kept later

lemma not_since_nil : ¬ Since kept occurs [] := by
  rintro ⟨before, event, after, heq, -⟩
  exact List.append_ne_nil_of_right_ne_nil before (List.cons_ne_nil event after) heq.symm

/-- What a longer history tells is told by its last event, or else kept from the history before. -/
lemma since_append_singleton : Since kept occurs (history ++ [event]) ↔
    occurs history event ∨ kept event ∧ Since kept occurs history := by
  constructor
  · rintro ⟨before, first, after, heq, hoccurs, hkept⟩
    rcases List.eq_nil_or_concat' after with rfl | ⟨after, last, rfl⟩
    · obtain ⟨rfl, hlast⟩ := List.append_inj' heq rfl
      obtain rfl := List.head_eq_of_cons_eq hlast
      exact .inl hoccurs
    · rw [← List.cons_append, ← List.append_assoc] at heq
      obtain ⟨rfl, hlast⟩ := List.append_inj' heq rfl
      obtain rfl := List.head_eq_of_cons_eq hlast
      refine .inr ⟨hkept event (by simp), before, first, after, rfl, hoccurs, ?_⟩
      intro later hlater
      exact hkept later (List.mem_append_left _ hlater)
  · rintro (hoccurs | ⟨hevent, before, first, after, rfl, hoccurs, hkept⟩)
    · exact ⟨history, event, [], rfl, hoccurs, by simp⟩
    · refine ⟨before, first, after ++ [event], by simp, hoccurs, ?_⟩
      intro later hlater
      rcases List.mem_append.mp hlater with hlater | hlater
      · exact hkept later hlater
      · rw [List.mem_singleton.mp hlater]
        exact hevent

end TripProposal
