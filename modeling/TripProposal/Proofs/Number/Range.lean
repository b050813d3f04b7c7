import Mathlib.Tactic.Common
import TripProposal.Number.Binary64

/-!
# The range of binary64 numbers

A whole number has a binary64 number unless it lies at least half a step beyond the greatest finite
one. Rounding settles this: a ratio is rounded up from an odd neighbour exactly when it lies half
way to the next one or further.
-/

namespace TripProposal.Number

/-! ### Rounding -/

/-- Rounding goes down to the quotient at most. -/
lemma div_le_roundDiv (num den : Nat) : num / den ≤ roundDiv num den := by
  unfold roundDiv
  dsimp only
  split
  · exact Nat.le_refl _
  · split
    · exact Nat.le_succ _
    · split
      · exact Nat.le_refl _
      · exact Nat.le_succ _

/-- Rounding goes up by one at most. -/
lemma roundDiv_le (num den : Nat) : roundDiv num den ≤ num / den + 1 := by
  unfold roundDiv
  dsimp only
  split
  · exact Nat.le_succ _
  · split
    · exact Nat.le_refl _
    · split
      · exact Nat.le_succ _
      · exact Nat.le_refl _

lemma roundDiv_one (num : Nat) : roundDiv num 1 = num := by
  simp [roundDiv, Nat.mod_one]

/-- What has an odd quotient is rounded up from half way on. -/
lemma roundDiv_of_odd {num half : Nat} (hodd : num / (2 * half) % 2 = 1) :
    num / (2 * half) < roundDiv num (2 * half) ↔ half ≤ num % (2 * half) := by
  unfold roundDiv
  dsimp only
  split
  · omega
  · split <;> [omega; split <;> omega]

/-- Rounding reaches the number above an odd one from half way on. -/
lemma lt_roundDiv_iff (num : Nat) {half k : Nat} (hh : 0 < half) (hk : k % 2 = 1) :
    k < roundDiv num (2 * half) ↔ k * (2 * half) + half ≤ num := by
  have hpos : 0 < 2 * half := by omega
  have hdiv := Nat.div_add_mod' num (2 * half)
  have hmod := Nat.mod_lt num hpos
  have hlow := div_le_roundDiv num (2 * half)
  have hhigh := roundDiv_le num (2 * half)
  rcases Nat.lt_trichotomy k (num / (2 * half)) with hlt | rfl | hgt
  · have hmul : (k + 1) * (2 * half) ≤ num / (2 * half) * (2 * half) := Nat.mul_le_mul_right _ hlt
    rw [Nat.succ_mul] at hmul
    constructor <;> intro <;> omega
  · rw [roundDiv_of_odd hk]
    omega
  · have hmul : (num / (2 * half) + 1) * (2 * half) ≤ k * (2 * half) := Nat.mul_le_mul_right _ hgt
    rw [Nat.succ_mul] at hmul
    constructor <;> intro <;> omega

/-! ### Whole numbers -/

/-- The exponent of a whole number is the position of its highest bit. -/
lemma binaryExponent_one {num : Nat} (hn : num ≠ 0) : binaryExponent num 1 = num.log2 := by
  have hone : Nat.log2 1 = 0 := by decide
  have hguess : ((num.log2 : Int) - (Nat.log2 1 : Int)) = num.log2 := by
    rw [hone]
    exact Int.sub_zero _
  have hlow : ¬ num < 1 * Nat.pow 2 num.log2 := by
    rw [Nat.one_mul, Nat.not_lt]
    exact Nat.log2_self_le hn
  have hpos : (0 : Int) ≤ num.log2 := by omega
  simp only [binaryExponent, hguess, belowPower, if_pos hpos, Int.toNat_natCast, hlow,
    decide_false, Bool.false_eq_true, if_false]

/-- A pair stands for no magnitude when it is not canonical. -/
lemma ofPair?_eq_none_iff {mantissa : Nat} {exponent : Int} :
    Magnitude.ofPair? mantissa exponent = none ↔ ¬ IsCanonical mantissa exponent := by
  unfold Magnitude.ofPair?
  split
  · next h => simp [h]
  · next h => simp [h]

/-- A whole number of at most 53 bits needs no rounding. -/
lemma ofRatio?_of_log2_lt {num : Nat} (hn : num ≠ 0) (hlog : num.log2 < 52) :
    Magnitude.ofRatio? num 1 ≠ none := by
  obtain ⟨k, hk⟩ := Nat.exists_eq_add_of_lt hlog
  have hexp : max (binaryExponent num 1 - 52) (-1074) = -((k + 1 : Nat) : Int) := by
    rw [binaryExponent_one hn]
    omega
  have hlow : Nat.pow 2 52 ≤ num * Nat.pow 2 (k + 1) := by
    calc Nat.pow 2 52 = Nat.pow 2 num.log2 * Nat.pow 2 (k + 1) := by
          rw [hk]
          exact Nat.pow_add 2 num.log2 (k + 1)
      _ ≤ num * Nat.pow 2 (k + 1) := Nat.mul_le_mul_right _ (Nat.log2_self_le hn)
  have hhigh : num * Nat.pow 2 (k + 1) < Nat.pow 2 53 := by
    calc num * Nat.pow 2 (k + 1) < Nat.pow 2 (num.log2 + 1) * Nat.pow 2 (k + 1) :=
          Nat.mul_lt_mul_of_pos_right Nat.lt_log2_self (Nat.pow_pos (by decide))
      _ = Nat.pow 2 53 := by
          rw [show (53 : Nat) = num.log2 + 1 + (k + 1) by omega]
          exact (Nat.pow_add 2 (num.log2 + 1) (k + 1)).symm
  have hneg : ¬ (0 : Int) ≤ -((k + 1 : Nat) : Int) := by omega
  have hcanonical : IsCanonical (num * Nat.pow 2 (k + 1)) (-((k + 1 : Nat) : Int)) :=
    .inl ⟨hlow, hhigh, by omega, by omega⟩
  unfold Magnitude.ofRatio?
  simp only [hn, Nat.one_ne_zero, or_false, if_false, hexp, if_neg hneg, Int.neg_neg, Int.toNat_natCast,
    roundDiv_one, if_pos hhigh]
  rw [ne_eq, ofPair?_eq_none_iff, not_not]
  exact hcanonical

/-- A longer whole number is rounded to 53 bits, and has a magnitude when its exponent is not too
large then. -/
lemma ofRatio?_of_log2 {num k : Nat} (hn : num ≠ 0) (hlog : num.log2 = 52 + k) :
    Magnitude.ofRatio? num 1 = none ↔
      971 < k ∨ (k = 971 ∧ Nat.pow 2 53 ≤ roundDiv num (Nat.pow 2 k)) := by
  have hexp : max (binaryExponent num 1 - 52) (-1074) = (k : Int) := by
    rw [binaryExponent_one hn]
    omega
  have hlow : Nat.pow 2 52 ≤ roundDiv num (Nat.pow 2 k) := by
    refine Nat.le_trans ?_ (div_le_roundDiv num _)
    rw [Nat.le_div_iff_mul_le (show 0 < Nat.pow 2 k from Nat.pow_pos (by decide))]
    calc Nat.pow 2 52 * Nat.pow 2 k = Nat.pow 2 num.log2 := by
          rw [hlog]
          exact (Nat.pow_add 2 52 k).symm
      _ ≤ num := Nat.log2_self_le hn
  have hstep : Nat.pow 2 52 < Nat.pow 2 53 := by decide
  have hpos : (0 : Int) ≤ k := by omega
  unfold Magnitude.ofRatio?
  simp only [hn, Nat.one_ne_zero, or_false, if_false, hexp, if_pos hpos, Int.toNat_natCast, Nat.one_mul]
  split
  · next hhigh =>
    rw [ofPair?_eq_none_iff]
    unfold IsCanonical
    omega
  · next hhigh =>
    rw [ofPair?_eq_none_iff]
    unfold IsCanonical
    omega

lemma lt_of_log2_lt {num bits bound : Nat} (hbound : Nat.pow 2 bits ≤ bound)
    (h : num.log2 < bits) : num < bound := by
  have hpow : Nat.pow 2 (num.log2 + 1) ≤ Nat.pow 2 bits := Nat.pow_le_pow_right (by decide) h
  exact Nat.lt_of_lt_of_le Nat.lt_log2_self (Nat.le_trans hpow hbound)

lemma le_of_le_log2 {num bits bound : Nat} (hbound : bound ≤ Nat.pow 2 bits) (hn : num ≠ 0)
    (h : bits ≤ num.log2) : bound ≤ num := by
  have hpow : Nat.pow 2 bits ≤ Nat.pow 2 num.log2 := Nat.pow_le_pow_right (by decide) h
  exact Nat.le_trans hbound (Nat.le_trans hpow (Nat.log2_self_le hn))

/-- With the greatest exponent, only rounding up leads beyond the range. -/
lemma range_le_iff_roundDiv (num : Nat) {k : Nat} (hk : k = 971) :
    Nat.pow 2 1024 - Nat.pow 2 970 ≤ num ↔ Nat.pow 2 53 ≤ roundDiv num (Nat.pow 2 k) := by
  have hhalf : Nat.pow 2 k = 2 * Nat.pow 2 970 := by
    subst hk
    decide +kernel
  have hrange : Nat.pow 2 1024 - Nat.pow 2 970 =
      (Nat.pow 2 53 - 1) * (2 * Nat.pow 2 970) + Nat.pow 2 970 := by decide +kernel
  have hpos : 0 < Nat.pow 2 970 := by decide +kernel
  have hodd : (Nat.pow 2 53 - 1) % 2 = 1 := by decide
  rw [hrange, ← lt_roundDiv_iff num hpos hodd, ← hhalf]
  exact Nat.lt_iff_add_one_le

/-- The whole numbers without a magnitude are those at least half a step beyond the greatest finite
number. -/
lemma ofRatio?_one_eq_none_iff (num : Nat) :
    Magnitude.ofRatio? num 1 = none ↔ Nat.pow 2 1024 - Nat.pow 2 970 ≤ num := by
  have hbelow : num.log2 < 1023 → num < Nat.pow 2 1024 - Nat.pow 2 970 :=
    lt_of_log2_lt (by decide +kernel)
  have habove : num ≠ 0 → 1024 ≤ num.log2 → Nat.pow 2 1024 - Nat.pow 2 970 ≤ num :=
    le_of_le_log2 (by decide +kernel)
  by_cases hn : num = 0
  · subst hn
    exact iff_of_false nofun (Nat.not_le.mpr (hbelow (by decide)))
  · rcases Nat.lt_or_ge num.log2 52 with hlog | hlog
    · have hlt := hbelow (by omega)
      exact iff_of_false (ofRatio?_of_log2_lt hn hlog) (Nat.not_le.mpr hlt)
    · obtain ⟨k, hk⟩ := Nat.exists_eq_add_of_le hlog
      rw [ofRatio?_of_log2 hn hk]
      rcases Nat.lt_trichotomy k 971 with hlt | heq | hgt
      · have hnum := hbelow (by omega)
        refine iff_of_false ?_ (Nat.not_le.mpr hnum)
        rintro (h | ⟨h, -⟩) <;> omega
      · rw [range_le_iff_roundDiv num heq, or_iff_right (by omega), and_iff_right heq]
      · exact iff_of_true (.inl hgt) (habove hn (by omega))

/-- A whole number is beyond the range of numbers from half a step above the greatest finite one
on. -/
lemma Binary64.ofInt?_eq_none_iff (n : Int) :
    Binary64.ofInt? n = none ↔ Nat.pow 2 1024 - Nat.pow 2 970 ≤ n.natAbs := by
  rw [Binary64.ofInt?, Option.map_eq_none_iff, ofRatio?_one_eq_none_iff]

end TripProposal.Number
