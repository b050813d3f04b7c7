import TripProposal.Number.Binary64
import TripProposal.Text.Search

/-!
# Shortest decimal text

A number is written with the fewest significant digits that read back as the same number; among
those the nearest is taken. Digits are tried on grids of one digit, two digits and so on: if a
grid has a point that reads back, so does one of the two points around the value.
-/

namespace TripProposal.Number

open Text

/-- The exponent `e` with `10 ^ e ≤ num / den < 10 ^ (e + 1)`, for a positive ratio. -/
def decimalExponent (num den : Nat) : Int :=
  let guess : Int := (Nat.toDigits 10 num).length - (Nat.toDigits 10 den).length
  if belowPower 10 num den guess then guess - 1 else guess

/-- The magnitude nearest to `coefficient * 10 ^ exponent`. -/
def Magnitude.ofDecimal? (coefficient : Nat) (exponent : Int) : Option Magnitude :=
  if 0 ≤ exponent then Magnitude.ofRatio? (coefficient * Nat.pow 10 exponent.toNat) 1
  else Magnitude.ofRatio? coefficient (Nat.pow 10 (-exponent).toNat)

/-- The point of the grid `10 ^ exponent` next to the value that reads back as `size`; of two the
nearer, and the even one when both are equally near. -/
def gridPoint? (size : Magnitude) (exponent : Int) : Option (Nat × Int) :=
  let (num, den) := size.ratio
  let (num, den) :=
    if 0 ≤ exponent then (num, den * Nat.pow 10 exponent.toNat)
    else (num * Nat.pow 10 (-exponent).toNat, den)
  let low := num / den
  let readsBack := fun n => Magnitude.ofDecimal? n exponent == some size
  match readsBack low, readsBack (low + 1) with
  | true, true => some (roundDiv num den, exponent)
  | true, false => some (low, exponent)
  | false, true => some (low + 1, exponent)
  | false, false => none

/-- The exact value as `coefficient * 10 ^ exponent`. -/
def Magnitude.exactDecimal (size : Magnitude) : Nat × Int :=
  if 0 ≤ size.exponent then (size.mantissa * Nat.pow 2 size.exponent.toNat, 0)
  else (size.mantissa * Nat.pow 5 (-size.exponent).toNat, size.exponent)

/-- A decimal that reads back as the magnitude, with the fewest digits that do. -/
def Magnitude.shortestDecimal (size : Magnitude) : Nat × Int :=
  let top := decimalExponent size.ratio.1 size.ratio.2
  match (List.range 17).findSome? fun (k : Nat) => gridPoint? size (top - k) with
  | some point => point
  | none => size.exactDecimal

/-! ### Layout -/

/-- The digits without trailing zeros, and the exponent raised by the zeros dropped. -/
def dropTrailingZeros (digits : List CodePoint) (exponent : Int) : List CodePoint × Int :=
  let kept := (digits.reverse.dropWhile (· == .char '0')).reverse
  (kept, exponent + (digits.length - kept.length : Nat))

/-- The exponent mark: a sign and at least two digits. -/
def exponentText (e : Int) : List CodePoint :=
  'e' :: (if e < 0 then '-' else '+') :: decimalPadded 2 e.natAbs

/-- Digits `d₁d₂…` standing for `0.d₁d₂… * 10 ^ point`. Numbers from `0.0001` up to sixteen places
before the point are written out, others with an exponent. -/
def layoutDigits (digits : List CodePoint) (point : Int) : List CodePoint :=
  if point < -3 ∨ 16 < point then
    match digits with
    | [] => ['0']
    | [d] => d :: exponentText (point - 1)
    | d :: rest => d :: '.' :: rest ++ exponentText (point - 1)
  else if point ≤ 0 then
    .char '0' :: .char '.' :: (List.replicate (-point).toNat (.char '0') ++ digits)
  else if digits.length ≤ point.toNat then
    digits ++ List.replicate (point.toNat - digits.length) (.char '0') ++ [.char '.', .char '0']
  else digits.take point.toNat ++ .char '.' :: digits.drop point.toNat

/-- A magnitude as text. -/
def Magnitude.text (size : Magnitude) : List CodePoint :=
  if size.mantissa = 0 then ['0', '.', '0']
  else
    let (coefficient, exponent) := size.shortestDecimal
    let (digits, exponent) := dropTrailingZeros (decimal coefficient) exponent
    layoutDigits digits (exponent + digits.length)

/-- A text with a minus sign in front when `negative`. -/
def signed (negative : Bool) (text : List CodePoint) : List CodePoint :=
  if negative then '-' :: text else text

/-- A number as text: `2.0`, `0.1`, `1e-07`, `1e+22`, `-0.0`, `inf`, `nan`. -/
def Binary64.text : Binary64 → List CodePoint
  | .nan => "nan".codePoints
  | .infinite negative => signed negative "inf".codePoints
  | .finite negative size => signed negative size.text

/-- The spelling that scripts and data files use for a number: as `text`, with `NaN` and
`Infinity` for the values that are not finite. -/
def Binary64.scriptText : Binary64 → List CodePoint
  | .nan => "NaN".codePoints
  | .infinite negative => signed negative "Infinity".codePoints
  | .finite negative size => signed negative size.text

/-- An integer in decimal. -/
def intText (n : Int) : List CodePoint :=
  signed (decide (n < 0)) (decimal n.natAbs)

end TripProposal.Number
