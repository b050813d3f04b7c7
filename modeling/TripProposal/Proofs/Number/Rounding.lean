import Mathlib.Data.Int.Log
import Mathlib.Data.Rat.Floor
import TripProposal.Proofs.Number.Equality
import TripProposal.Proofs.Number.Spelling

/-!
# Reading back what is written

The magnitude nearest to a ratio depends on the exact value of the ratio alone, and a value that
has a magnitude of its own is rounded to it. So any decimal that stands for the shortest decimal
form of a number is read as that number.
-/

namespace TripProposal.Number

open Text

variable {num den a b c d : Nat} {size : Magnitude}

/-! ### Quotients -/

/-- A common factor does not change how a quotient is rounded. -/
lemma roundDiv_mul_right (num den : Nat) {k : Nat} (hk : 0 < k) :
    roundDiv (num * k) (den * k) = roundDiv num den := by
  have hlow : 2 * (num % den * k) < den * k ↔ 2 * (num % den) < den := by
    rw [← Nat.mul_assoc]
    exact Nat.mul_lt_mul_right hk
  have hhigh : den * k < 2 * (num % den * k) ↔ den < 2 * (num % den) := by
    rw [← Nat.mul_assoc]
    exact Nat.mul_lt_mul_right hk
  simp only [roundDiv, Nat.mul_div_mul_right _ _ hk, Nat.mul_mod_mul_right, hlow, hhigh]

/-- Equal ratios are rounded to the same integer. -/
lemma roundDiv_congr (hb : b ≠ 0) (hd : d ≠ 0) (h : (a : ℚ) / b = c / d) :
    roundDiv a b = roundDiv c d := by
  have hcross : a * d = c * b := by
    rw [div_eq_div_iff (Nat.cast_ne_zero.mpr hb) (Nat.cast_ne_zero.mpr hd)] at h
    exact_mod_cast h
  calc roundDiv a b = roundDiv (a * d) (b * d) :=
        (roundDiv_mul_right a b (Nat.pos_of_ne_zero hd)).symm
    _ = roundDiv (c * b) (d * b) := by rw [hcross, Nat.mul_comm b d]
    _ = roundDiv c d := roundDiv_mul_right c d (Nat.pos_of_ne_zero hb)

lemma roundDiv_mul_self (n : Nat) {k : Nat} (hk : 0 < k) : roundDiv (n * k) k = n := by
  have h := roundDiv_mul_right n 1 hk
  rwa [Nat.one_mul, roundDiv_one] at h

/-! ### Exponents -/

/-- The comparison with a power works without division. -/
lemma belowPower_iff {base : Nat} (hbase : base ≠ 0) (hden : den ≠ 0) (power : Int) :
    belowPower base num den power = true ↔ (num : ℚ) / den < base ^ power := by
  have hpos : (0 : ℚ) < den := Nat.cast_pos.mpr (Nat.pos_of_ne_zero hden)
  rw [div_lt_iff₀ hpos, mul_comm]
  unfold belowPower
  split
  · next h =>
    obtain ⟨k, rfl⟩ := Int.eq_ofNat_of_zero_le h
    rw [decide_eq_true_iff, Int.toNat_natCast, zpow_natCast]
    exact_mod_cast Iff.rfl
  · next h =>
    obtain ⟨k, hk⟩ := Int.eq_ofNat_of_zero_le (show 0 ≤ -power by omega)
    have hpower : power = -(k : Int) := by omega
    have hscale : (0 : ℚ) < base ^ k := pow_pos (Nat.cast_pos.mpr (Nat.pos_of_ne_zero hbase)) k
    rw [decide_eq_true_iff, hk, Int.toNat_natCast, hpower, zpow_neg, zpow_natCast,
      ← div_eq_mul_inv, lt_div_iff₀ hscale]
    exact_mod_cast Iff.rfl

/-- The quotient of two numbers lies between the quotients of the powers of two around them. -/
lemma zpow_log2_bounds (hnum : num ≠ 0) (hden : den ≠ 0) :
    (2 : ℚ) ^ ((num.log2 : Int) - den.log2 - 1) ≤ num / den ∧
      (num : ℚ) / den < 2 ^ ((num.log2 : Int) - den.log2 + 1) := by
  have hpos : (0 : ℚ) < den := Nat.cast_pos.mpr (Nat.pos_of_ne_zero hden)
  have hnumLow : (2 : ℚ) ^ num.log2 ≤ num := by exact_mod_cast Nat.log2_self_le hnum
  have hnumHigh : (num : ℚ) < 2 ^ (num.log2 + 1) := by exact_mod_cast Nat.lt_log2_self
  have hdenLow : (2 : ℚ) ^ den.log2 ≤ den := by exact_mod_cast Nat.log2_self_le hden
  have hdenHigh : (den : ℚ) ≤ 2 ^ (den.log2 + 1) := by
    exact_mod_cast (Nat.lt_log2_self (n := den)).le
  have hlow : (num.log2 : Int) - den.log2 - 1 = num.log2 - (den.log2 + 1 : Nat) := by omega
  have hhigh : (num.log2 : Int) - den.log2 + 1 = (num.log2 + 1 : Nat) - den.log2 := by omega
  rw [hlow, hhigh, zpow_sub₀ two_ne_zero, zpow_sub₀ two_ne_zero]
  simp only [zpow_natCast]
  constructor
  · exact div_le_div₀ (Nat.cast_nonneg num) hnumLow hpos hdenHigh
  · exact div_lt_div₀ hnumHigh hdenLow (by positivity) (by positivity)

/-- The exponent of a positive ratio is the logarithm of its value. -/
lemma binaryExponent_eq_log (hnum : num ≠ 0) (hden : den ≠ 0) :
    binaryExponent num den = Int.log 2 ((num : ℚ) / den) := by
  have hpos : (0 : ℚ) < num / den := by positivity
  obtain ⟨hlow, hhigh⟩ := zpow_log2_bounds hnum hden
  have hbelow : belowPower 2 num den (num.log2 - den.log2) = true ↔
      (num : ℚ) / den < (2 : Nat) ^ ((num.log2 : Int) - den.log2) :=
    belowPower_iff two_ne_zero hden _
  rw [Int.lt_zpow_iff_log_lt one_lt_two hpos] at hbelow
  rw [← Nat.cast_ofNat, Int.zpow_le_iff_le_log one_lt_two hpos] at hlow
  rw [← Nat.cast_ofNat, Int.lt_zpow_iff_log_lt one_lt_two hpos] at hhigh
  unfold binaryExponent
  dsimp only
  split
  · next h =>
    rw [hbelow] at h
    omega
  · next h =>
    rw [hbelow] at h
    omega

/-! ### Magnitudes -/

/-- The exponent of the magnitude nearest to a value. -/
def nearestExponent (q : ℚ) : Int := max (Int.log 2 q - 52) (-1074)

/-- A ratio counted in units of a power of two, rounded to an integer. -/
def unitsOf (num den : Nat) (exponent : Int) : Nat :=
  if 0 ≤ exponent then roundDiv num (den * Nat.pow 2 exponent.toNat)
  else roundDiv (num * Nat.pow 2 (-exponent).toNat) den

/-- The nearest magnitude is found by rounding in units of its exponent. -/
lemma ofRatio?_eq (hnum : num ≠ 0) (hden : den ≠ 0) : Magnitude.ofRatio? num den =
    if unitsOf num den (nearestExponent (num / den)) < Nat.pow 2 53 then
      Magnitude.ofPair? (unitsOf num den (nearestExponent (num / den)))
        (nearestExponent (num / den))
    else Magnitude.ofPair? (Nat.pow 2 52) (nearestExponent (num / den) + 1) := by
  rw [Magnitude.ofRatio?, if_neg (not_or.mpr ⟨hnum, hden⟩), binaryExponent_eq_log hnum hden]
  rfl

/-- The units of a quotient depend on its value only. -/
lemma unitsOf_congr (hb : b ≠ 0) (hd : d ≠ 0) (h : (a : ℚ) / b = c / d) (exponent : Int) :
    unitsOf a b exponent = unitsOf c d exponent := by
  have hpow : ∀ k, Nat.pow 2 k ≠ 0 := fun k => (Nat.pow_pos two_pos).ne'
  unfold unitsOf
  split
  · refine roundDiv_congr (Nat.mul_ne_zero hb (hpow _)) (Nat.mul_ne_zero hd (hpow _)) ?_
    rw [Nat.cast_mul, Nat.cast_mul, ← div_div, ← div_div, h]
  · refine roundDiv_congr hb hd ?_
    rw [Nat.cast_mul, Nat.cast_mul, mul_div_right_comm, mul_div_right_comm, h]

/-- The nearest magnitude depends on the value of the ratio alone. -/
lemma ofRatio?_congr (hb : b ≠ 0) (hd : d ≠ 0) (h : (a : ℚ) / b = c / d) :
    Magnitude.ofRatio? a b = Magnitude.ofRatio? c d := by
  have hzero : a = 0 ↔ c = 0 := by
    have hvalue : (a : ℚ) / b = 0 ↔ (c : ℚ) / d = 0 := by rw [h]
    simpa [hb, hd] using hvalue
  by_cases ha : a = 0
  · rw [ha, hzero.mp ha, Magnitude.ofRatio?, Magnitude.ofRatio?, if_pos (.inl rfl),
      if_pos (.inl rfl)]
  · rw [ofRatio?_eq ha hb, ofRatio?_eq (mt hzero.mpr ha) hd, h, unitsOf_congr hb hd h]

lemma mantissa_lt (size : Magnitude) : size.mantissa < Nat.pow 2 53 := by
  have hstep : Nat.pow 2 52 < Nat.pow 2 53 := by decide
  rcases size.canonical with ⟨-, hm, -⟩ | ⟨hm, -⟩
  · exact hm
  · exact Nat.lt_trans hm hstep

/-- The nearest exponent to the value of a magnitude is its own. -/
lemma nearestExponent_toRat (h : size.mantissa ≠ 0) :
    nearestExponent size.toRat = size.exponent := by
  have hscale : (0 : ℚ) < 2 ^ size.exponent := zpow_pos two_pos _
  have hpos : 0 < size.toRat := mul_pos (Nat.cast_pos.mpr (Nat.pos_of_ne_zero h)) hscale
  have hlow : ∀ {k : Nat}, Nat.pow 2 k ≤ size.mantissa →
      (k : Int) + size.exponent ≤ Int.log 2 size.toRat := by
    intro k hk
    rw [← Int.zpow_le_iff_le_log one_lt_two hpos, Nat.cast_ofNat, zpow_add₀ two_ne_zero]
    exact mul_le_mul_of_nonneg_right (by exact_mod_cast hk) hscale.le
  have hhigh : ∀ {k : Nat}, size.mantissa < Nat.pow 2 k →
      Int.log 2 size.toRat < (k : Int) + size.exponent := by
    intro k hk
    rw [← Int.lt_zpow_iff_log_lt one_lt_two hpos, Nat.cast_ofNat, zpow_add₀ two_ne_zero]
    exact mul_lt_mul_of_pos_right (by exact_mod_cast hk) hscale
  unfold nearestExponent
  rcases size.canonical with ⟨hm, hm', he, -⟩ | ⟨hm, he⟩
  · have hlog := hlow hm
    have hlog' := hhigh hm'
    omega
  · have hlog := hhigh hm
    omega

/-- A magnitude is as many units as it has significant bits. -/
lemma unitsOf_ratio (size : Magnitude) :
    unitsOf size.ratio.1 size.ratio.2 size.exponent = size.mantissa := by
  have hpow : ∀ k, 0 < Nat.pow 2 k := fun k => Nat.pow_pos two_pos
  unfold unitsOf Magnitude.ratio
  split
  · rw [Nat.one_mul]
    exact roundDiv_mul_self _ (hpow _)
  · exact roundDiv_mul_self _ (hpow _)

/-- A magnitude is the one nearest to its own value. -/
lemma ofRatio?_ratio (h : size.mantissa ≠ 0) :
    Magnitude.ofRatio? size.ratio.1 size.ratio.2 = some size := by
  have hden := size.ratio_snd_ne_zero
  have hnum : size.ratio.1 ≠ 0 := by
    intro hzero
    have hvalue := size.ratio_eq_toRat
    rw [hzero, Nat.cast_zero, zero_div] at hvalue
    exact h (Magnitude.toRat_eq_zero.mp hvalue.symm)
  rw [ofRatio?_eq hnum hden, size.ratio_eq_toRat, nearestExponent_toRat h, unitsOf_ratio,
    if_pos (mantissa_lt size), Magnitude.ofPair?, dif_pos size.canonical]

lemma exponent_of_ofPair? {mantissa : Nat} {exponent : Int}
    (h : Magnitude.ofPair? mantissa exponent = some size) :
    size.mantissa = mantissa ∧ exponent ≤ 971 := by
  unfold Magnitude.ofPair? at h
  split at h
  · next hcanonical =>
    cases h
    refine ⟨rfl, ?_⟩
    rcases hcanonical with ⟨-, -, -, he⟩ | ⟨-, he⟩ <;> omega
  · cases h

/-- What has a nearest magnitude is not beyond the range. -/
lemma lt_of_ofRatio? (hnum : num ≠ 0) (hden : den ≠ 0)
    (h : Magnitude.ofRatio? num den = some size) : (num : ℚ) / den < 2 ^ (1024 : Int) := by
  have hpos : (0 : ℚ) < num / den := by positivity
  have hexponent : nearestExponent (num / den) ≤ 971 := by
    rw [ofRatio?_eq hnum hden] at h
    split at h
    · exact (exponent_of_ofPair? h).2
    · have hnext := (exponent_of_ofPair? h).2
      omega
  unfold nearestExponent at hexponent
  rw [← Nat.cast_ofNat, Int.lt_zpow_iff_log_lt one_lt_two hpos]
  omega

/-- Less than half a unit is rounded to nothing. -/
lemma unitsOf_eq_zero (hden : den ≠ 0) {k : Nat}
    (h : (num : ℚ) / den < 2 ^ (-((k + 1 : Nat) : Int))) : unitsOf num den (-(k : Int)) = 0 := by
  have hpos : (0 : ℚ) < den := Nat.cast_pos.mpr (Nat.pos_of_ne_zero hden)
  have hsmall : 2 * (num * Nat.pow 2 k) < den := by
    rw [div_lt_iff₀ hpos, zpow_neg, ← div_eq_inv_mul, lt_div_iff₀ (zpow_pos two_pos _),
      zpow_natCast, pow_succ] at h
    have hcast : num * (2 ^ k * 2) < den := by exact_mod_cast h
    calc 2 * (num * Nat.pow 2 k) = num * (2 ^ k * 2) := by
          rw [Nat.mul_comm 2, Nat.mul_assoc]
          rfl
      _ < den := hcast
  have hround : roundDiv (num * Nat.pow 2 k) den = 0 := by
    have hzero : num * Nat.pow 2 k / den = 0 := Nat.div_eq_of_lt (by omega)
    have hrest : num * Nat.pow 2 k % den = num * Nat.pow 2 k := Nat.mod_eq_of_lt (by omega)
    simp only [roundDiv, hzero, hrest, if_pos hsmall]
  unfold unitsOf
  split
  · next hexp =>
    obtain rfl : k = 0 := by omega
    rwa [Int.natCast_zero, Int.neg_zero, Int.toNat_zero, Nat.pow_eq, Nat.pow_zero, Nat.mul_one] at *
  · rwa [Int.neg_neg, Int.toNat_natCast]

/-- What is rounded to something is at least half of the smallest magnitude. -/
lemma le_of_ofRatio? (hnum : num ≠ 0) (hden : den ≠ 0)
    (h : Magnitude.ofRatio? num den = some size) (hsize : size.mantissa ≠ 0) :
    (2 : ℚ) ^ (-1075 : Int) ≤ num / den := by
  have hpos : (0 : ℚ) < num / den := by positivity
  by_contra hlt
  rw [not_le] at hlt
  have hexponent : nearestExponent (num / den) = -1074 := by
    have hlog := hlt
    rw [← Nat.cast_ofNat, Int.lt_zpow_iff_log_lt one_lt_two hpos] at hlog
    unfold nearestExponent
    omega
  have hunits : unitsOf num den (-1074) = 0 := unitsOf_eq_zero hden hlt
  rw [ofRatio?_eq hnum hden, hexponent, hunits, if_pos (by decide)] at h
  exact hsize (exponent_of_ofPair? h).1

/-! ### Decimals -/

/-- A positive number is a quotient of whole numbers. -/
lemma exists_ratio {q : ℚ} (h : 0 < q) :
    ∃ num den : Nat, num ≠ 0 ∧ den ≠ 0 ∧ q = num / den := by
  have hnum := Rat.num_pos.mpr h
  have hcast : ((q.num.natAbs : Int) : ℚ) = q.num := by rw [Int.natAbs_of_nonneg hnum.le]
  refine ⟨q.num.natAbs, q.den, Int.natAbs_ne_zero.mpr hnum.ne', q.den_nz, ?_⟩
  rw [← Int.cast_natCast q.num.natAbs, hcast, Rat.num_div_den]

/-- The nearest magnitude to a decimal is that to any ratio of the same value. -/
lemma ofDecimal?_eq {coefficient : Nat} {exponent : Int} (hden : den ≠ 0)
    (h : (coefficient : ℚ) * 10 ^ exponent = num / den) :
    Magnitude.ofDecimal? coefficient exponent = Magnitude.ofRatio? num den := by
  unfold Magnitude.ofDecimal?
  split
  · next hexp =>
    obtain ⟨k, rfl⟩ := Int.eq_ofNat_of_zero_le hexp
    refine ofRatio?_congr one_ne_zero hden ?_
    rw [← h]
    simp
  · next hexp =>
    obtain ⟨k, hk⟩ := Int.eq_ofNat_of_zero_le (show 0 ≤ -exponent by omega)
    have hexponent : exponent = -(k : Int) := by omega
    refine ofRatio?_congr (Nat.pow_pos (by decide)).ne' hden ?_
    rw [← h, hexponent]
    simp [div_eq_mul_inv]

/-- The shortest decimal form of a magnitude reads back as the magnitude. -/
lemma ofDecimal?_shortestDecimal (h : size.mantissa ≠ 0) :
    Magnitude.ofDecimal? size.shortestDecimal.1 size.shortestDecimal.2 = some size := by
  unfold Magnitude.shortestDecimal
  dsimp only
  split
  · next point hpoint =>
    obtain ⟨k, -, hgrid⟩ := List.exists_of_findSome?_eq_some hpoint
    exact gridPoint?_readsBack hgrid
  · -- No grid has a point that reads back: the form is the exact value.
    rw [← ofRatio?_ratio h]
    refine ofDecimal?_eq size.ratio_snd_ne_zero ?_
    rw [size.ratio_eq_toRat, Magnitude.toRat, Magnitude.exactDecimal]
    split
    · next he =>
      obtain ⟨k, hk⟩ := Int.eq_ofNat_of_zero_le he
      simp [hk]
    · next he =>
      obtain ⟨k, hk⟩ := Int.eq_ofNat_of_zero_le (show 0 ≤ -size.exponent by omega)
      have hfive : ((Nat.pow 5 k : Nat) : ℚ) * 5 ^ size.exponent = 1 := by
        have hexponent : size.exponent = -(k : Int) := by omega
        rw [hexponent, zpow_neg, zpow_natCast]
        simp
      have hten : (10 : ℚ) = 5 * 2 := by norm_num
      dsimp only
      rw [hk, Int.toNat_natCast, Nat.cast_mul, hten, mul_zpow, ← mul_assoc,
        mul_assoc (size.mantissa : ℚ), hfive, mul_one]

/-- Digits stand for less than the power of ten of their number, and not for less than a tenth
of it. -/
lemma zpow_digits_bounds {coefficient : Nat} (h : coefficient ≠ 0) (exponent : Int) :
    (10 : ℚ) ^ (exponent + (decimal coefficient).length - 1) ≤ coefficient * 10 ^ exponent ∧
      (coefficient : ℚ) * 10 ^ exponent < 10 ^ (exponent + (decimal coefficient).length) := by
  have hscale : (0 : ℚ) < 10 ^ exponent := by positivity
  obtain ⟨k, hk⟩ : ∃ k, (decimal coefficient).length = k + 1 :=
    Nat.exists_eq_add_one_of_ne_zero (by simp [decimal, Nat.length_toDigits_pos.ne'])
  have hhigh : coefficient < 10 ^ (k + 1) := hk ▸ lt_pow_length_decimal coefficient
  have hlow : 10 ^ k ≤ coefficient := by
    rw [← not_lt]
    intro hlt
    cases k with
    | zero => exact h (Nat.lt_one_iff.mp hlt)
    | succ k =>
      have hlength := (Nat.length_toDigits_le_iff (by decide) (Nat.succ_pos k)).mpr hlt
      have hdigits : (Nat.toDigits 10 coefficient).length = k + 1 + 1 := by
        simpa [decimal] using hk
      omega
  have hexp : exponent + (k + 1 : Nat) - 1 = (k : Int) + exponent := by omega
  rw [hk, hexp, add_comm exponent, zpow_add₀ (by norm_num), zpow_add₀ (by norm_num)]
  simp only [zpow_natCast]
  constructor
  · exact mul_le_mul_of_nonneg_right (by exact_mod_cast hlow) hscale.le
  · exact mul_lt_mul_of_pos_right (by exact_mod_cast hhigh) hscale

/-- Powers of whole numbers compare as rational ones do. -/
lemma zpow_le_zpow_of_pow_le {base base' k k' : Nat} (h : Nat.pow base k ≤ Nat.pow base' k') :
    (base : ℚ) ^ (k : Int) ≤ (base' : ℚ) ^ (k' : Int) := by
  rw [zpow_natCast, zpow_natCast]
  exact_mod_cast h

/-- Where a decimal has a magnitude, its exponent is within the bounds beyond which the answer is
settled without rounding. -/
lemma exponent_bounds_of_ofDecimal? {coefficient : Nat} {exponent : Int}
    (hcoefficient : coefficient ≠ 0)
    (h : Magnitude.ofDecimal? coefficient exponent = some size) (hsize : size.mantissa ≠ 0) :
    -330 ≤ exponent + (decimal coefficient).length ∧
      exponent + (decimal coefficient).length ≤ 310 := by
  obtain ⟨hlow, hhigh⟩ := zpow_digits_bounds hcoefficient exponent
  have hpos : (0 : ℚ) < coefficient * 10 ^ exponent := by positivity
  obtain ⟨num, den, hnum, hden, hvalue⟩ := exists_ratio hpos
  rw [ofDecimal?_eq hden hvalue] at h
  have hbelow := lt_of_ofRatio? hnum hden h
  have habove := le_of_ofRatio? hnum hden h hsize
  rw [← hvalue] at hbelow habove
  have hten : (1 : ℚ) ≤ 10 := by norm_num
  constructor
  · by_contra hlt
    -- Below this power a number would round to zero.
    have hsmall : (10 : ℚ) ^ (exponent + (decimal coefficient).length) ≤ 2 ^ (-1075 : Int) := by
      have hpow : (2 : ℚ) ^ (1075 : Int) ≤ 10 ^ (331 : Int) :=
        zpow_le_zpow_of_pow_le (by decide +kernel)
      have hinv : (10 : ℚ) ^ (-331 : Int) ≤ 2 ^ (-1075 : Int) := by
        rw [zpow_neg, zpow_neg]
        exact inv_anti₀ (zpow_pos two_pos _) hpow
      exact (zpow_le_zpow_right₀ hten (by omega)).trans hinv
    exact absurd (habove.trans_lt hhigh) (not_lt.mpr hsmall)
  · by_contra hlt
    -- From this power on it would be beyond the range.
    have hlarge : (2 : ℚ) ^ (1024 : Int) ≤
        10 ^ (exponent + (decimal coefficient).length - 1) := by
      have hpow : (2 : ℚ) ^ (1024 : Int) ≤ 10 ^ (310 : Int) :=
        zpow_le_zpow_of_pow_le (by decide +kernel)
      exact hpow.trans (zpow_le_zpow_right₀ hten (by omega))
    exact absurd (hlow.trans_lt hbelow) (not_lt.mpr hlarge)

/-- Where a decimal has a magnitude, it is read as that. -/
lemma ofDecimal_of_ofDecimal? {coefficient : Nat} {exponent : Int}
    (h : Magnitude.ofDecimal? coefficient exponent = some size) (hsize : size.mantissa ≠ 0)
    (negative : Bool) :
    Binary64.ofDecimal negative coefficient exponent = .finite negative size := by
  have hcoefficient : coefficient ≠ 0 := by
    rintro rfl
    rw [ofDecimal?_zero] at h
    cases h
    exact hsize rfl
  obtain ⟨hlow, hhigh⟩ := exponent_bounds_of_ofDecimal? hcoefficient h hsize
  rw [decimal, List.length_map] at hlow hhigh
  unfold Binary64.ofDecimal
  dsimp only
  rw [if_neg hcoefficient, if_neg (by omega), if_neg (by omega)]
  unfold Magnitude.ofDecimal? at h
  split
  · next hexp =>
    rw [if_pos hexp] at h
    rw [Binary64.ofRatio, h]
  · next hexp =>
    rw [if_neg hexp] at h
    rw [Binary64.ofRatio, h]

/-- A decimal of the same value as the shortest form of a number is read as the number. -/
lemma ofDecimal_of_spelled {coefficient : Nat} {exponent : Int}
    (h : (coefficient : ℚ) * 10 ^ exponent = size.spelled) (negative : Bool) :
    Binary64.ofDecimal negative coefficient exponent = .finite negative size := by
  by_cases hsize : size.mantissa = 0
  · have hzero : coefficient = 0 := by
      rw [Magnitude.spelled, if_pos hsize, mul_eq_zero] at h
      exact_mod_cast h.resolve_right (zpow_ne_zero _ (by norm_num))
    have hmagnitude : Magnitude.zero = size := by
      apply Magnitude.toRat_injective
      rw [Magnitude.toRat_eq_zero.mpr hsize, Magnitude.toRat_eq_zero.mpr rfl]
    rw [hzero, ← hmagnitude]
    rfl
  · refine ofDecimal_of_ofDecimal? ?_ hsize negative
    rw [Magnitude.spelled, if_neg hsize] at h
    have hcoefficient := shortestDecimal_ne_zero hsize
    have hpos : (0 : ℚ) < size.shortestDecimal.1 * 10 ^ size.shortestDecimal.2 := by positivity
    obtain ⟨num, den, -, hden, hvalue⟩ := exists_ratio hpos
    rw [ofDecimal?_eq hden (h.trans hvalue), ← ofDecimal?_eq hden hvalue,
      ofDecimal?_shortestDecimal hsize]

end TripProposal.Number
