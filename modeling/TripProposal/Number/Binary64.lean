/-!
# Binary64 numbers

The numbers of IEEE 754 double precision, as far as a trip document needs them: they are read
from decimal text, compared and printed, and no arithmetic is done on them. A finite number is a
sign and a magnitude `mantissa * 2 ^ exponent` in canonical form, so that equal magnitudes have
equal fields, and every operation works on the exact ratio in natural numbers.
-/

namespace TripProposal.Number

/-- The canonical pairs: a full 53-bit mantissa, or the least exponent. -/
def IsCanonical (mantissa : Nat) (exponent : Int) : Prop :=
  (Nat.pow 2 52 ≤ mantissa ∧ mantissa < Nat.pow 2 53 ∧ -1074 ≤ exponent ∧ exponent ≤ 971) ∨
    (mantissa < Nat.pow 2 52 ∧ exponent = -1074)

instance (mantissa : Nat) (exponent : Int) : Decidable (IsCanonical mantissa exponent) := by
  unfold IsCanonical; infer_instance

/-- The size of a finite number, `mantissa * 2 ^ exponent`. -/
structure Magnitude where
  mantissa : Nat
  exponent : Int
  canonical : IsCanonical mantissa exponent
deriving DecidableEq

/-- A double-precision number. The signs of zeros and infinities count, a NaN has none. -/
inductive Binary64
  | nan
  | infinite (negative : Bool)
  | finite (negative : Bool) (size : Magnitude)
deriving DecidableEq

namespace Magnitude

/-- Nothing at all. -/
def zero : Magnitude := ⟨0, -1074, by decide⟩

instance : Inhabited Magnitude := ⟨zero⟩

/-- The magnitude of a canonical pair. -/
def ofPair? (mantissa : Nat) (exponent : Int) : Option Magnitude :=
  if h : IsCanonical mantissa exponent then some ⟨mantissa, exponent, h⟩ else none

/-- The exact value as numerator and denominator. -/
def ratio (m : Magnitude) : Nat × Nat :=
  if 0 ≤ m.exponent then (m.mantissa * Nat.pow 2 m.exponent.toNat, 1)
  else (m.mantissa, Nat.pow 2 (-m.exponent).toNat)

end Magnitude

/-! ### Rounding -/

/-- The quotient rounded to the nearest integer, a half going to the even neighbour. -/
def roundDiv (num den : Nat) : Nat :=
  let floor := num / den
  let twice := 2 * (num % den)
  if twice < den then floor
  else if den < twice then floor + 1
  else if floor % 2 = 0 then floor else floor + 1

/-- Whether `num / den` lies below `base ^ power`. -/
def belowPower (base num den : Nat) (power : Int) : Bool :=
  if 0 ≤ power then num < den * Nat.pow base power.toNat else num * Nat.pow base (-power).toNat < den

/-- The exponent `e` with `2 ^ e ≤ num / den < 2 ^ (e + 1)`, for a positive ratio. -/
def binaryExponent (num den : Nat) : Int :=
  let guess : Int := num.log2 - den.log2
  if belowPower 2 num den guess then guess - 1 else guess

/-- The magnitude nearest to a ratio, ties to the even mantissa; none when the ratio rounds
beyond the greatest finite number. -/
def Magnitude.ofRatio? (num den : Nat) : Option Magnitude :=
  if num = 0 ∨ den = 0 then some .zero
  else
    let exponent := max (binaryExponent num den - 52) (-1074)
    let mantissa :=
      if 0 ≤ exponent then roundDiv num (den * Nat.pow 2 exponent.toNat)
      else roundDiv (num * Nat.pow 2 (-exponent).toNat) den
    if mantissa < Nat.pow 2 53 then Magnitude.ofPair? mantissa exponent
    else Magnitude.ofPair? (Nat.pow 2 52) (exponent + 1)

namespace Binary64

/-- The positive zero. -/
def zero : Binary64 := .finite false .zero

instance : Inhabited Binary64 := ⟨zero⟩

/-- The number nearest to a signed ratio; beyond the greatest finite number, an infinity. -/
def ofRatio (negative : Bool) (num den : Nat) : Binary64 :=
  match Magnitude.ofRatio? num den with
  | some size => .finite negative size
  | none => .infinite negative

/-- The number nearest to an integer, none when the integer is too large. -/
def ofInt? (n : Int) : Option Binary64 :=
  (Magnitude.ofRatio? n.natAbs 1).map (.finite (decide (n < 0)))

/-- The number nearest to `coefficient * 10 ^ exponent`. Exponents that are out of range however
many digits there are settle the answer without a large power. -/
def ofDecimal (negative : Bool) (coefficient : Nat) (exponent : Int) : Binary64 :=
  let digits : Int := (Nat.toDigits 10 coefficient).length
  if coefficient = 0 then .finite negative .zero
  else if 310 < exponent + digits then .infinite negative
  else if exponent + digits < -330 then .finite negative .zero
  else if 0 ≤ exponent then ofRatio negative (coefficient * Nat.pow 10 exponent.toNat) 1
  else ofRatio negative coefficient (Nat.pow 10 (-exponent).toNat)

/-- Whether the number is neither an infinity nor a NaN. -/
def isFinite : Binary64 → Bool
  | .finite .. => true
  | _ => false

/-- Whether the number is a NaN. -/
def isNaN : Binary64 → Bool
  | .nan => true
  | _ => false

/-- Whether the number is a zero of either sign. -/
def isZero : Binary64 → Bool
  | .finite _ size => size.mantissa == 0
  | _ => false

/-- Whether the number is greater than zero. -/
def isPositive : Binary64 → Bool
  | .finite negative size => !negative && size.mantissa != 0
  | .infinite negative => !negative
  | .nan => false

/-- The exact value of a finite number as a signed numerator and a denominator. -/
def ratio? : Binary64 → Option (Int × Nat)
  | .finite negative size =>
    some ((if negative then -(size.ratio.1 : Int) else size.ratio.1), size.ratio.2)
  | _ => none

/-- The integer that a number equals, if it is a whole number. -/
def toInt? (x : Binary64) : Option Int :=
  match x.ratio? with
  | some (num, den) => if num % den = 0 then some (num / den) else none
  | none => none

/-- Numeric equality: a NaN equals nothing and the two zeros are equal. -/
def equals : Binary64 → Binary64 → Bool
  | .finite a x, .finite b y => x == y && (a == b || x.mantissa == 0)
  | .infinite a, .infinite b => a == b
  | _, _ => false

/-- Equality with an integer, compared exactly. -/
def equalsInt (x : Binary64) (n : Int) : Bool :=
  x.toInt? == some n

end Binary64

end TripProposal.Number
