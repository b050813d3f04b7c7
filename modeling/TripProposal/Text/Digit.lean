import TripProposal.Text.Table

/-!
# Digits

The decimal digits of every script stand in runs of ten, zero first, so a table of the zeros
gives every digit its value. Characters such as superscripts and circled digits look like digits
but stand for no decimal place: they are digit-like and have no value here.
-/

namespace TripProposal.Text

/-- The zeros of the decimal digit runs of Unicode 14. -/
def decimalZeros : List Nat := [
    48, 1632, 1776, 1984, 2406, 2534, 2662, 2790, 2918, 3046, 3174, 3302, 3430, 3558, 3664, 3792,
    3872, 4160, 4240, 6112, 6160, 6470, 6608, 6784, 6800, 6992, 7088, 7232, 7248, 42528, 43216,
    43264, 43472, 43504, 43600, 44016, 65296, 66720, 68912, 69734, 69872, 69942, 70096, 70384,
    70736, 70864, 71248, 71360, 71472, 71904, 72016, 72784, 73040, 73120, 92768, 92864, 93008,
    120782, 120792, 120802, 120812, 120822, 123200, 123632, 125264, 130032]

/-- The value of a decimal digit of any script. -/
def digitValue? (c : CodePoint) : Option Nat :=
  if c.toNat < 128 then
    if 48 ≤ c.toNat ∧ c.toNat ≤ 57 then some (c.toNat - 48) else none
  else
    (decimalZeros.find? fun start => start ≤ c.toNat && c.toNat < start + 10).map (c.toNat - ·)

/-- Whether a character is a decimal digit of some script. -/
def isDecimalDigit (c : CodePoint) : Bool :=
  (digitValue? c).isSome

/-- Bounds of the digit-like characters of Unicode 14 that are not decimal digits. -/
def digitLikeTable : Array Nat := #[
    178, 180, 185, 186, 4969, 4978, 6618, 6619, 8304, 8305, 8308, 8314, 8320, 8330, 9312, 9321,
    9332, 9341, 9352, 9361, 9450, 9451, 9461, 9470, 9471, 9472, 10102, 10111, 10112, 10121, 10122,
    10131, 68160, 68164, 69216, 69225, 69714, 69723, 127232, 127243]

/-- Whether a character is a decimal digit or looks like one. -/
def isDigitLike (c : CodePoint) : Bool :=
  isDecimalDigit c || inTable digitLikeTable c.toNat

/-- Value of a row of decimal digits read from the left, given the value read so far. -/
def valueOfDigits (acc : Nat) (digits : List Nat) : Nat :=
  digits.foldl (fun n d => 10 * n + d) acc

/-- The values of the decimal digits that a text starts with, and what follows them. -/
def takeDigits : List CodePoint → List Nat × List CodePoint
  | [] => ([], [])
  | c :: rest =>
    match digitValue? c with
    | some d => ((d :: (takeDigits rest).1), (takeDigits rest).2)
    | none => ([], c :: rest)

end TripProposal.Text
