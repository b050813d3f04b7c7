import Mathlib.Data.List.Infix
import TripProposal.Proofs.Text.Searching

/-!
# Occurrences

A search finds a pattern exactly when the pattern occurs somewhere in the text. Short words also
occur inside of longer ones, so it matters what an occurrence stands behind. Occurrences are counted
by the positions that they start at, so those that overlap count each.
-/

namespace TripProposal.Text

variable {pattern lead word text : List CodePoint}

/-! ### Finding -/

/-- The search fails where the pattern does not occur. -/
lemma find?_eq_none_iff : find? pattern text = none ↔ ¬ pattern <:+: text := by
  induction text with
  | nil =>
    cases pattern with
    | nil => simp [find?]
    | cons c pattern => simp [find?]
  | cons c text ih =>
    rw [find?, List.infix_cons_iff, ← List.isPrefixOf_iff_prefix]
    cases hp : pattern.isPrefixOf (c :: text) with
    | true => simp
    | false => simp [ih]

/-- A pattern is held by the texts in which it occurs. -/
lemma holds_iff_infix : holds pattern text = true ↔ pattern <:+: text := by
  rw [holds, Option.isSome_iff_ne_none, ne_eq, find?_eq_none_iff, not_not]

/-! ### What an occurrence stands behind -/

/-- Every occurrence of a word stands right behind a lead. -/
def OnlyBehind (lead word text : List CodePoint) : Prop :=
  ∀ before after, text = before ++ (word ++ after) → lead <:+ before

/-- A word that stands only behind a lead occurs exactly where lead and word do. -/
lemma OnlyBehind.infix_iff (h : OnlyBehind lead word text) :
    word <:+: text ↔ lead ++ word <:+: text := by
  constructor
  · rintro ⟨before, after, rfl⟩
    rw [List.append_assoc] at h ⊢
    obtain ⟨start, rfl⟩ := h before after rfl
    exact ⟨start, after, by simp⟩
  · exact (List.infix_append_right ..).trans

/-- It is enough to look at every position of the text. -/
lemma onlyBehind_iff : OnlyBehind lead word text ↔
    ∀ n < text.length + 1, word <+: text.drop n → lead <:+ text.take n := by
  constructor
  · rintro h n - ⟨after, hafter⟩
    refine h _ after ?_
    rw [hafter, List.take_append_drop]
  · rintro h before after rfl
    have hn : before.length < (before ++ (word ++ after)).length + 1 := by
      simp only [List.length_append]
      omega
    simpa using h before.length hn

instance (lead word text : List CodePoint) : Decidable (OnlyBehind lead word text) :=
  decidable_of_iff _ onlyBehind_iff.symm

/-! ### Counting -/

/-- How often a pattern that is not empty occurs in a text. -/
def occurrences (pattern text : List CodePoint) : Nat :=
  text.tails.countP pattern.isPrefixOf

@[simp] lemma occurrences_nil (h : pattern ≠ []) : occurrences pattern [] = 0 := by
  cases pattern with
  | nil => exact absurd rfl h
  | cons c pattern => rfl

/-- Occurrences are counted at each position. -/
lemma occurrences_cons (pattern : List CodePoint) (c : CodePoint) (text : List CodePoint) :
    occurrences pattern (c :: text) =
      occurrences pattern text + if pattern <+: c :: text then 1 else 0 := by
  rw [occurrences, List.tails_cons, List.countP_cons, ← occurrences]
  simp only [List.isPrefixOf_iff_prefix]

end TripProposal.Text
