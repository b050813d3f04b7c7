import TripProposal.Number.Binary64
import TripProposal.Text.Blank
import TripProposal.Text.Digit

/-!
# Reading numbers from text

Two readers. The strict one takes a whole text as one number: blanks around it, a sign, decimal
digits of any script with single underscores between them, a point, an exponent, or a name of
infinity or NaN. The lenient one takes the numeric beginning of a text and ignores the rest; it
knows neither underscores nor names.
-/

namespace TripProposal.Number

open Text

/-! ### Decimal numerals -/

/-- The parts of a decimal numeral. -/
structure Numeral where
  negative : Bool
  whole : List Nat
  fraction : List Nat
  /-- The exponent, zero when none is written. -/
  exponent : Int

/-- The number that a numeral stands for. -/
def Numeral.value (n : Numeral) : Binary64 :=
  .ofDecimal n.negative (valueOfDigits 0 (n.whole ++ n.fraction)) (n.exponent - n.fraction.length)

/-- An optional sign and what follows it. -/
def takeSign : List CodePoint → Bool × List CodePoint
  | '+' :: rest => (false, rest)
  | '-' :: rest => (true, rest)
  | rest => (false, rest)

/-- An exponent mark with its digits, if the text starts with a complete one. -/
def takeExponent (text : List CodePoint) : Int × List CodePoint :=
  match text with
  | c :: rest =>
    if c = 'e' ∨ c = 'E' then
      match takeDigits (takeSign rest).2 with
      | ([], _) => (0, text)
      | (digits, after) =>
        let n : Int := valueOfDigits 0 digits
        (if (takeSign rest).1 then -n else n, after)
    else (0, text)
  | [] => (0, [])

/-- The digits around an optional point: at least one digit on some side of it. -/
def takeMantissa? (text : List CodePoint) : Option (List Nat × List Nat × List CodePoint) :=
  match takeDigits text with
  | ([], '.' :: rest) =>
    match takeDigits rest with
    | ([], _) => none
    | (fraction, after) => some ([], fraction, after)
  | ([], _) => none
  | (whole, '.' :: rest) => some (whole, takeDigits rest)
  | (whole, after) => some (whole, [], after)

/-- The longest numeral that the text starts with, and what follows it. -/
def takeNumeral? (text : List CodePoint) : Option (Numeral × List CodePoint) :=
  match takeMantissa? (takeSign text).2 with
  | none => none
  | some (whole, fraction, rest) =>
    some (⟨(takeSign text).1, whole, fraction, (takeExponent rest).1⟩, (takeExponent rest).2)

/-! ### The strict reader -/

/-- Whether a blank may stand around a number: every blank but the information separators. -/
def isNumberBlank (c : CodePoint) : Bool :=
  isBlank c && !(28 ≤ c.toNat && c.toNat ≤ 31)

/-- The text without the blanks that may stand around a number. -/
def trimNumber (text : List CodePoint) : List CodePoint :=
  ((text.dropWhile isNumberBlank).reverse.dropWhile isNumberBlank).reverse

/-- The text without its underscores, each of which must stand between two digits. -/
def dropUnderscores? (afterDigit : Bool) : List CodePoint → Option (List CodePoint)
  | [] => some []
  | '_' :: rest =>
    match rest with
    | c :: _ =>
      if afterDigit && isDecimalDigit c then dropUnderscores? false rest else none
    | [] => none
  | c :: rest => (dropUnderscores? (isDecimalDigit c) rest).map (c :: ·)

/-- An ASCII letter in its small form. -/
def asciiLower (c : CodePoint) : CodePoint :=
  if 'A' ≤ c ∧ c ≤ 'Z' then CodePoint.ofNat (c.toNat + 32) else c

/-- The value of a name of infinity or NaN, with its sign. -/
def named? (text : List CodePoint) : Option Binary64 :=
  let name := (takeSign text).2.map asciiLower
  if name = "inf".codePoints ∨ name = "infinity".codePoints then some (.infinite (takeSign text).1)
  else if name = "nan".codePoints then some .nan
  else none

/-- The number that a whole text spells. -/
def read? (text : List CodePoint) : Option Binary64 :=
  match named? (trimNumber text) with
  | some x => some x
  | none =>
    match dropUnderscores? false (trimNumber text) with
    | none => none
    | some plain =>
      match takeNumeral? plain with
      | some (numeral, []) => some numeral.value
      | _ => none

/-! ### The lenient reader -/

/-- Why a numeric beginning can fail to be a number. -/
inductive LeadingFault
  /-- An information separator stands among the blanks in front. -/
  | separatorBefore
deriving DecidableEq

/-- The number that a text starts with, after blanks. Blanks in front that may not stand around a
number are a fault once a number follows them. -/
def readLeading (text : List CodePoint) : Except LeadingFault (Option Binary64) :=
  match takeNumeral? (text.dropWhile isBlank) with
  | none => .ok none
  | some (numeral, _) =>
    if (text.takeWhile isBlank).all isNumberBlank then .ok (some numeral.value)
    else .error .separatorBefore

end TripProposal.Number
