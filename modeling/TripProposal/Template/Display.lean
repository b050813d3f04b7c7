import TripProposal.Calendar.Written
import TripProposal.Number.Shortest
import TripProposal.Template.Fault
import TripProposal.Text.Case
import TripProposal.Url.Percent
import TripProposal.Value.Number
import TripProposal.Value.Read
import TripProposal.Value.Written

/-!
# Showing values

How a template shows a value, and the helpers that show it in a special form. A missing value is
`none`; it shows as nothing, like `null`.
-/

namespace TripProposal.Template

open Text Number Calendar

/-! ### Plain values -/

/-- A number, without its fraction when that is zero. -/
def numberText (x : Binary64) : List CodePoint :=
  match x.toInt? with
  | some n => intText n
  | none => x.text

/-- A value as it shows: flags in small letters, whole numbers without a fraction, lists and
objects as JSON on one line. -/
def display : Option Value → List CodePoint
  | none | some .null => []
  | some (.bool b) => if b then "true".codePoints else "false".codePoints
  | some (.int n) => intText n
  | some (.float x) => if x.isFinite then numberText x else x.scriptText
  | some (.text s) => s.toList
  | some v => v.compact

/-- Whether a value is there and filled. -/
def isFilled (v : Option Value) : Bool :=
  v.any Value.isFilled

/-- A value as part of a URL; values that are not filled show as nothing. -/
def displayUri (v : Option Value) : Except Fault (List CodePoint) :=
  if isFilled v then
    (Url.percentEncode Url.isComponentSafe (display v)).mapError fun e => .notEncodable e.text
  else .ok []

/-- A value with its first letter capitalised; values that are not filled show as nothing. -/
def displayCapitalized (v : Option Value) : List CodePoint :=
  if isFilled v then capitalizeFirst (display v) else []

/-- A value as indented JSON. -/
def displayIndented : Option Value → List CodePoint
  | none => []
  | some v => v.indented

/-- A value, or a text in its place when it is missing, `null` or an empty text. -/
def displayOr (fallback : List CodePoint) : Option Value → List CodePoint
  | none | some .null => fallback
  | some (.text s) => if s = "" then fallback else s.toList
  | v => display v

/-- A date in long form; a text that names no date is shown as it is. -/
def displayDate (v : Option Value) : List CodePoint :=
  match v with
  | some (.text s) =>
    match Moment.read? s.toList with
    | some m => m.date.longText.toList
    | none => s.toList
  | v => if isFilled v then display v else []

/-! ### Amounts -/

/-- A decimal amount, `coefficient * 10 ^ exponent` with a sign. -/
structure Amount where
  negative : Bool
  coefficient : Nat
  /-- Power of ten that scales them. -/
  exponent : Int

/-- The amount in cents, rounded to the nearest with ties away from zero. -/
def Amount.cents (a : Amount) : Nat :=
  let power := a.exponent + 2
  if 0 ≤ power then a.coefficient * Nat.pow 10 power.toNat
  else
    let scale := Nat.pow 10 (-power).toNat
    (2 * a.coefficient + scale) / (2 * scale)

/-- Digits with a comma before every third from the right, `count` digits being left of the next
comma. -/
def groupDigits : List CodePoint → List CodePoint
  | [] => []
  | d :: rest =>
    if rest.length % 3 = 0 && !rest.isEmpty then d :: ',' :: groupDigits rest
    else d :: groupDigits rest

/-- The cents behind the point, without needless zeros. -/
def centsText (cents : Nat) : List CodePoint :=
  if cents = 0 then []
  else if cents % 10 = 0 then '.' :: decimal (cents / 10)
  else '.' :: decimalPadded 2 cents

/-- A number of cents as dollars. -/
def dollarText (negative : Bool) (cents : Nat) : List CodePoint :=
  signed (negative && cents != 0)
    (.char '$' :: groupDigits (decimal (cents / 100)) ++ centsText (cents % 100))

/-- An amount as dollars. The digits of the whole dollars are read again before they are grouped,
and there is a limit to the digits that can be read. -/
def Amount.text (a : Amount) : Except Fault (List CodePoint) :=
  if (decimal (a.cents / 100)).length ≤ Value.maxDigits then .ok (dollarText a.negative a.cents)
  else .error .amountTooLong

/-- The amount that a finite number spells in its shortest decimal form. -/
def Amount.ofNumber? : Binary64 → Option Amount
  | .finite negative size =>
    if size.mantissa = 0 then some ⟨negative, 0, 0⟩
    else some ⟨negative, size.shortestDecimal.1, size.shortestDecimal.2⟩
  | _ => none

/-- The amount of a value: a number, or the number that a text starts with. -/
def amountOf : Value → Except Fault (Option Amount)
  | .int n => .ok (some ⟨decide (n < 0), n.natAbs, 0⟩)
  | .float x => .ok (Amount.ofNumber? x)
  | .text s =>
    match readLeading s.toList with
    | .ok found => .ok (found.bind Amount.ofNumber?)
    | .error .separatorBefore => .error .separatorBeforeAmount
  | _ => .ok none

/-- A value as dollars; a value without an amount shows as it is. -/
def displayCurrency (v : Option Value) : Except Fault (List CodePoint) :=
  match v with
  | none | some .null => .ok []
  | some value => (amountOf value).bind fun
    | some amount => amount.text
    | none => .ok (display value)

/-! ### Counts -/

/-- The count of a value: flags count as one and zero, what is no finite number as zero. -/
def countOf (v : Option Value) : Except Fault Binary64 :=
  match v with
  | none => .ok .zero
  | some (.bool b) => .ok (if b then .ofRatio false 1 1 else .zero)
  | some value =>
    match value.number? with
    | .ok (some x) => .ok (if x.isFinite then x else .zero)
    | .ok none => .ok .zero
    | .error _ => .error .countTooLarge

/-- A count with its word, `1 Guest` or `4 Guests`. Without a plural the singular takes an `s`. -/
def displayCount (v : Option Value) (singular : List CodePoint)
    (plural? : Option (List CodePoint)) :
    Except Fault (List CodePoint) :=
  (countOf v).map fun count =>
    let plural := match plural? with
      | none | some [] => singular ++ [.char 's']
      | some plural => plural
    numberText count ++ .char ' ' :: (if count.equalsInt 1 then singular else plural)

end TripProposal.Template
