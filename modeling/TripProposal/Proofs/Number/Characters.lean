import Mathlib.Tactic.Common
import TripProposal.Number.Shortest

/-!
# The characters of written numbers

Numbers are written with digits, signs, a point and letters. All of these come before the braces,
and none is a hash, so none of them has a meaning of its own in a template.
-/

namespace TripProposal.Number

open Text

variable {a b : List CodePoint} {c : CodePoint}

/-- Whether every character of a text comes before the brace in ASCII, and none is a hash. -/
def IsBasic (text : List CodePoint) : Prop := ∀ c ∈ text, c.toNat < 123 ∧ c ≠ '#'

@[simp] lemma isBasic_nil : IsBasic [] := by simp [IsBasic]

@[simp] lemma isBasic_cons : IsBasic (c :: a) ↔ (c.toNat < 123 ∧ c ≠ '#') ∧ IsBasic a := by
  simp [IsBasic]

@[simp] lemma isBasic_append : IsBasic (a ++ b) ↔ IsBasic a ∧ IsBasic b := by
  simp only [IsBasic, List.mem_append]
  exact ⟨fun h => ⟨fun c hc => h c (.inl hc), fun c hc => h c (.inr hc)⟩,
    fun h c hc => hc.elim (h.1 c) (h.2 c)⟩

lemma IsBasic.subset (h : IsBasic b) (hs : a ⊆ b) : IsBasic a := fun c hc => h c (hs hc)

lemma IsBasic.isChar (h : IsBasic a) : a.all CodePoint.isChar = true := by
  rw [List.all_eq_true]
  intro c hc
  exact CodePoint.isChar_iff.mpr (.inl (Nat.lt_trans (h c hc).1 (by decide)))

@[simp] lemma isBasic_replicate_zero (n : Nat) : IsBasic (List.replicate n '0') := by
  intro c hc
  rw [List.eq_of_mem_replicate hc]
  simp

/-- Decimals are written with digits. -/
lemma isDigit_of_mem_decimal {n : Nat} (h : c ∈ decimal n) : c.isDigit = true := by
  obtain ⟨d, hd, rfl⟩ := List.mem_map.mp h
  rw [CodePoint.isDigit_char]
  exact Nat.isDigit_of_mem_toDigits (by decide) (by decide) hd

@[simp] lemma isBasic_decimal (n : Nat) : IsBasic (decimal n) := by
  intro c hc
  have hdigit := isDigit_of_mem_decimal hc
  rw [CodePoint.isDigit, Bool.and_eq_true, decide_eq_true_iff, decide_eq_true_iff] at hdigit
  refine ⟨by omega, ?_⟩
  intro hhash
  rw [hhash] at hdigit
  exact absurd hdigit.1 (by decide)

/-- Different numbers have different digits. -/
lemma decimal_injective : Function.Injective decimal := by
  intro n m h
  have hdigits := (List.map_inj_right fun _ _ => CodePoint.char.inj).mp h
  have hvalue := congrArg (Nat.ofDigitChars 10 · 0) hdigits
  simpa only [Nat.ofDigitChars_toDigits (b := 10) (by decide) (by decide)] using hvalue

lemma isBasic_signed {negative : Bool} (h : IsBasic a) : IsBasic (signed negative a) := by
  cases negative with
  | false => exact h
  | true => exact isBasic_cons.mpr ⟨by simp, h⟩

lemma isBasic_intText (n : Int) : IsBasic (intText n) :=
  isBasic_signed (isBasic_decimal _)

@[simp] lemma isBasic_exponentText (e : Int) : IsBasic (exponentText e) := by
  have hsign : IsBasic [if e < 0 then '-' else '+'] := by split <;> simp
  have hsign := (isBasic_cons.mp hsign).1
  simp [exponentText, decimalPadded, padLeft, hsign]

/-- The places of a point and an exponent are written with basic characters. -/
lemma isBasic_layoutDigits {digits : List CodePoint} (h : IsBasic digits) (point : Int) :
    IsBasic (layoutDigits digits point) := by
  have htake : IsBasic (digits.take point.toNat) := h.subset (List.take_subset _ _)
  have hdrop : IsBasic (digits.drop point.toNat) := h.subset (List.drop_subset _ _)
  unfold layoutDigits
  split
  · split
    · simp
    · simp_all
    · simp_all
  · split
    · simp [h]
    · split
      · simp [h]
      · simp [htake, hdrop]

/-- So are magnitudes. -/
lemma isBasic_magnitudeText (size : Magnitude) : IsBasic size.text := by
  unfold Magnitude.text
  split
  · simp
  · refine isBasic_layoutDigits ?_ _
    have hsub := List.reverse_sublist.mpr
      (List.dropWhile_sublist (· == '0') (l := (decimal size.shortestDecimal.1).reverse))
    rw [List.reverse_reverse] at hsub
    exact (isBasic_decimal _).subset hsub.subset

/-- Numbers are written with basic characters. -/
lemma isBasic_text (x : Binary64) : IsBasic x.text := by
  cases x with
  | nan => simp [Binary64.text]
  | infinite negative => exact isBasic_signed (by simp)
  | finite negative size => exact isBasic_signed (isBasic_magnitudeText size)

lemma isBasic_scriptText (x : Binary64) : IsBasic x.scriptText := by
  cases x with
  | nan => simp [Binary64.scriptText]
  | infinite negative => exact isBasic_signed (by simp)
  | finite negative size => exact isBasic_signed (isBasic_magnitudeText size)

end TripProposal.Number
