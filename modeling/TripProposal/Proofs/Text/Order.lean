import Mathlib.Data.List.Basic
import Mathlib.Tactic.Common
import TripProposal.Text.Search

/-!
# The order of texts

Texts are ordered by their characters. The order is total, so a list of texts has one sorted form,
whatever the order that its texts were given in.
-/

namespace TripProposal.Text

variable {a b c : List CodePoint}

lemma precedes_trans (hab : precedes a b = true) (hbc : precedes b c = true) :
    precedes a c = true := by
  induction a generalizing b c with
  | nil => rfl
  | cons x a ih =>
    cases b with
    | nil => cases hab
    | cons y b =>
      cases c with
      | nil => cases hbc
      | cons z c =>
        simp only [precedes, Bool.or_eq_true, Bool.and_eq_true, decide_eq_true_iff, beq_iff_eq]
          at hab hbc ⊢
        rcases hab with hab | ⟨rfl, hab⟩
        · rcases hbc with hbc | ⟨rfl, hbc⟩
          · exact .inl (Nat.lt_trans hab hbc)
          · exact .inl hab
        · rcases hbc with hbc | ⟨rfl, hbc⟩
          · exact .inl hbc
          · exact .inr ⟨rfl, ih hab hbc⟩

lemma precedes_total (a b : List CodePoint) : (precedes a b || precedes b a) = true := by
  induction a generalizing b with
  | nil => rfl
  | cons x a ih =>
    cases b with
    | nil => rfl
    | cons y b =>
      have hrest := ih b
      simp only [precedes, Bool.or_eq_true, Bool.and_eq_true, decide_eq_true_iff, beq_iff_eq]
        at hrest ⊢
      rcases Nat.lt_trichotomy x.toNat y.toNat with h | h | h
      · exact .inl (.inl h)
      · obtain rfl := CodePoint.toNat_inj.mp h
        exact hrest.imp (fun h => .inr ⟨rfl, h⟩) fun h => .inr ⟨rfl, h⟩
      · exact .inr (.inl h)

/-- Texts that precede each other are the same, so the order of a sorted list is determined. -/
lemma precedes_antisymm (hab : precedes a b = true) (hba : precedes b a = true) : a = b := by
  induction a generalizing b with
  | nil =>
    cases b with
    | nil => rfl
    | cons y b => cases hba
  | cons x a ih =>
    cases b with
    | nil => cases hab
    | cons y b =>
      simp only [precedes, Bool.or_eq_true, Bool.and_eq_true, decide_eq_true_iff, beq_iff_eq]
        at hab hba
      rcases hab with hab | ⟨rfl, hab⟩
      · rcases hba with hba | ⟨rfl, -⟩
        · exact absurd (Nat.lt_trans hab hba) (Nat.lt_irrefl _)
        · exact absurd hab (Nat.lt_irrefl _)
      · rcases hba with hba | ⟨-, hba⟩
        · exact absurd hba (Nat.lt_irrefl _)
        · rw [ih hab hba]

/-- Sorting puts texts in this order. -/
lemma pairwise_mergeSort_precedes (texts : List Text) :
    (texts.mergeSort fun s t => precedes s.toList t.toList).Pairwise
      fun s t => precedes s.toList t.toList = true := by
  refine List.pairwise_mergeSort ?_ ?_ texts
  · exact fun _ _ _ => precedes_trans
  · exact fun s t => precedes_total s.toList t.toList

/-- Lists of the same texts are the same when they are sorted. -/
lemma mergeSort_precedes_of_perm {texts texts' : List Text} (h : texts.Perm texts') :
    (texts.mergeSort fun s t => precedes s.toList t.toList) =
      texts'.mergeSort fun s t => precedes s.toList t.toList := by
  refine List.Perm.eq_of_pairwise (fun s t _ _ hst hts => ?_) (pairwise_mergeSort_precedes texts)
    (pairwise_mergeSort_precedes texts') ?_
  · exact Text.toList_inj.mp (precedes_antisymm hst hts)
  · exact (List.mergeSort_perm _ _).trans (h.trans (List.mergeSort_perm _ _).symm)

/-- Without carriage returns lines end as they should. -/
lemma unifyNewlines_of_notMem (h : .char '\r' ∉ a) : unifyNewlines a = a := by
  induction a with
  | nil => rfl
  | cons x a ih =>
    rw [List.mem_cons, not_or] at h
    have hx : x ≠ '\r' := Ne.symm h.1
    simp [unifyNewlines, hx, ih h.2]

end TripProposal.Text
