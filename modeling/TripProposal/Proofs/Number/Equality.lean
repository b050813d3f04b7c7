import Mathlib.Algebra.Order.Field.Power
import Mathlib.Algebra.Order.Field.Rat
import Mathlib.Order.WithBot
import Mathlib.Tactic.Linarith
import TripProposal.Number.Binary64

/-!
# Equal numbers

Numbers are compared by their fields. As these are canonical, numbers are equal exactly when their
exact values are, and a number equals an integer exactly when its value is that integer.
-/

namespace TripProposal.Number

/-! ### Exact values -/

namespace Magnitude

/-- The exact value of a magnitude. -/
def toRat (m : Magnitude) : ℚ := m.mantissa * 2 ^ m.exponent

lemma ratio_snd_ne_zero (m : Magnitude) : m.ratio.2 ≠ 0 := by
  unfold ratio
  split
  · exact one_ne_zero
  · exact (Nat.pow_pos (by decide)).ne'

/-- The ratio of a magnitude is its value. -/
lemma ratio_eq_toRat (m : Magnitude) : (m.ratio.1 : ℚ) / m.ratio.2 = m.toRat := by
  unfold ratio toRat
  split
  · next h =>
    obtain ⟨k, hk⟩ := Int.eq_ofNat_of_zero_le h
    simp [hk]
  · next h =>
    obtain ⟨k, hk⟩ := Int.eq_ofNat_of_zero_le (show 0 ≤ -m.exponent by omega)
    have hexp : m.exponent = -(k : Int) := by omega
    simp [hexp, div_eq_mul_inv]

/-- A mantissa of a larger exponent is too long for the smaller one. -/
lemma exponent_le_of_toRat_eq {m n : Magnitude} (h : m.toRat = n.toRat) :
    m.exponent ≤ n.exponent := by
  by_contra hlt
  obtain ⟨k, hk⟩ := Int.le.dest (show n.exponent + 1 ≤ m.exponent by omega)
  have hexp : m.exponent = n.exponent + (k + 1 : Nat) := by omega
  have hpow : (2 : ℚ) ^ n.exponent ≠ 0 := zpow_ne_zero _ two_ne_zero
  have hmantissa : m.mantissa * 2 ^ (k + 1) = n.mantissa := by
    rw [toRat, toRat, hexp, zpow_add₀ two_ne_zero, zpow_natCast, mul_left_comm, mul_comm] at h
    exact_mod_cast mul_right_cancel₀ hpow h
  have hlong : Nat.pow 2 52 ≤ m.mantissa := by
    have hm := m.canonical
    have hn := n.canonical
    unfold IsCanonical at hm hn
    omega
  have hshort : n.mantissa < Nat.pow 2 53 := by
    have hn := n.canonical
    have hstep : Nat.pow 2 52 < Nat.pow 2 53 := by decide
    unfold IsCanonical at hn
    omega
  have hdouble : 2 ≤ 2 ^ (k + 1) := Nat.le_self_pow (Nat.succ_ne_zero k) 2
  have hproduct : Nat.pow 2 52 * 2 ≤ m.mantissa * 2 ^ (k + 1) := Nat.mul_le_mul hlong hdouble
  have hsquare : Nat.pow 2 53 = Nat.pow 2 52 * 2 := by decide
  omega

/-- Equal magnitudes have equal fields. -/
lemma toRat_injective : Function.Injective toRat := by
  intro m n h
  have hexp : m.exponent = n.exponent :=
    le_antisymm (exponent_le_of_toRat_eq h) (exponent_le_of_toRat_eq h.symm)
  have hmantissa : m.mantissa = n.mantissa := by
    rw [toRat, toRat, hexp] at h
    exact_mod_cast mul_right_cancel₀ (zpow_ne_zero _ two_ne_zero) h
  obtain ⟨_, _, _⟩ := m
  obtain ⟨_, _, _⟩ := n
  simp_all

lemma toRat_nonneg (m : Magnitude) : 0 ≤ m.toRat :=
  mul_nonneg m.mantissa.cast_nonneg (zpow_nonneg zero_le_two _)

/-- Only a magnitude without significant bits is zero. -/
lemma toRat_eq_zero {m : Magnitude} : m.toRat = 0 ↔ m.mantissa = 0 := by
  simp [toRat, zpow_ne_zero]

end Magnitude

/-! ### Equality -/

namespace Binary64

/-- The exact value of a number that is one: a rational, or the sign of an infinity. -/
def exactValue? : Binary64 → Option (ℚ ⊕ Bool)
  | .nan => none
  | .infinite negative => some (.inr negative)
  | .finite negative size => some (.inl (if negative then -size.toRat else size.toRat))

/-- Numbers with one value are the same number, or they are zeros of different signs. -/
lemma exactValue?_finite_eq {a b : Bool} {x y : Magnitude} :
    (finite a x).exactValue? = (finite b y).exactValue? ↔ x = y ∧ (a = b ∨ x.mantissa = 0) := by
  have hx := x.toRat_nonneg
  have hy := y.toRat_nonneg
  rw [← Magnitude.toRat_injective.eq_iff (a := x), ← Magnitude.toRat_eq_zero]
  simp only [exactValue?, Option.some.injEq, Sum.inl.injEq]
  cases a <;> cases b <;>
    simp only [Bool.false_eq_true, Bool.true_eq_false, if_true, if_false, false_or, true_or,
      and_true, neg_inj]
  -- Two signs are left: opposite values are the same only when there is nothing to negate.
  · exact ⟨fun h => ⟨by linarith, by linarith⟩, fun h => by linarith [h.1, h.2]⟩
  · exact ⟨fun h => ⟨by linarith, by linarith⟩, fun h => by linarith [h.1, h.2]⟩

/-- Numbers are equal when they have the same exact value. -/
lemma equals_iff (x y : Binary64) :
    x.equals y = true ↔ x.exactValue?.isSome ∧ x.exactValue? = y.exactValue? := by
  cases x with
  | nan => simp [equals, exactValue?]
  | infinite a => cases y <;> simp [equals, exactValue?]
  | finite a x =>
    cases y with
    | finite b y =>
      rw [exactValue?_finite_eq]
      simp [equals, exactValue?]
    | _ => simp [equals, exactValue?]

/-- A number equals an integer when that is its exact value. -/
lemma equalsInt_iff (x : Binary64) (n : Int) :
    x.equalsInt n = true ↔ x.exactValue? = some (.inl n) := by
  cases x with
  | nan => simp [equalsInt, toInt?, ratio?, exactValue?]
  | infinite a => simp [equalsInt, toInt?, ratio?, exactValue?]
  | finite a x =>
    have hden : (x.ratio.2 : Int) ≠ 0 := by exact_mod_cast x.ratio_snd_ne_zero
    have hvalue : (if a then -x.toRat else x.toRat) =
        ((if a then -(x.ratio.1 : Int) else x.ratio.1 : Int) : ℚ) / (x.ratio.2 : Int) := by
      rw [← x.ratio_eq_toRat]
      cases a
      · simp
      · simp [neg_div]
    simp only [equalsInt, toInt?, ratio?, exactValue?, hvalue, Option.some.injEq, Sum.inl.injEq]
    generalize (if a then -(x.ratio.1 : Int) else x.ratio.1) = num
    rw [div_eq_iff (by exact_mod_cast hden)]
    norm_cast
    split
    · next hdvd =>
      rw [beq_iff_eq, Option.some.injEq,
        Int.ediv_eq_iff_eq_mul_left hden (Int.dvd_of_emod_eq_zero hdvd)]
    · next hdvd =>
      refine iff_of_false nofun ?_
      rintro rfl
      exact hdvd (Int.mul_emod_left n _)

end Binary64

end TripProposal.Number
