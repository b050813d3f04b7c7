import Mathlib.Tactic.Common
import TripProposal.Text.Digit

/-!
# Texts whose digits are decimal

Beyond ASCII there are characters that look like digits and stand for no decimal place. In a text
without them, whatever looks like a numeral is one.
-/

namespace TripProposal.Text

variable {a b : List CodePoint} {c : CodePoint}

/-- Nothing is counted when all entries that are searched lie above. -/
lemma countUpTo_eq_of_lt {bounds : Array Nat} {n lo hi : Nat}
    (h : ∀ i, i < hi → n < bounds.getD i 0) : countUpTo bounds n lo hi = lo := by
  fun_induction countUpTo bounds n lo hi with
  | case1 lo hi hlt mid hle ih => exact absurd hle (Nat.not_le.mpr (h mid (by omega)))
  | case2 lo hi hlt mid hle ih => exact ih fun i hi' => h i (by omega)
  | case3 lo hi hlt => rfl

/-- No character before the superscripts only looks like a digit. -/
lemma isDecimalDigit_of_lt (hc : c.toNat < 178) (h : isDigitLike c) : isDecimalDigit c := by
  have hbounds : ∀ i, i < digitLikeTable.size → c.toNat < digitLikeTable.getD i 0 := by
    have hleast : ∀ i, i < digitLikeTable.size → 178 ≤ digitLikeTable.getD i 0 := by decide
    exact fun i hi => Nat.lt_of_lt_of_le hc (hleast i hi)
  have htable : inTable digitLikeTable c.toNat = false := by
    rw [inTable, countUpTo_eq_of_lt hbounds]
    rfl
  simpa [isDigitLike, htable] using h

/-- Whether every character of a text that looks like a digit is a decimal digit. -/
def DigitsAreDecimal (text : List CodePoint) : Prop :=
  ∀ c ∈ text, isDigitLike c → isDecimalDigit c

lemma digitsAreDecimal_of_lt (h : ∀ c ∈ a, c.toNat < 178) : DigitsAreDecimal a :=
  fun c hc => isDecimalDigit_of_lt (h c hc)

lemma DigitsAreDecimal.subset (h : DigitsAreDecimal b) (hs : a ⊆ b) : DigitsAreDecimal a :=
  fun c hc => h c (hs hc)

end TripProposal.Text
