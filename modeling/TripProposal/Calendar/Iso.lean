import TripProposal.Calendar.Moment
import TripProposal.Text.Digit

/-!
# Reading ISO dates and times

The accepted dates are `2026-10-15`, `20261015`, `2026-W42`, `2026W42`, `2026-W42-4` and
`2026W424`. Any single character may separate a date from a time. A time has two-digit parts
with colons between all of them or between none, and a decimal fraction after a point or comma;
an offset has the shape of a time behind a sign.

The reader is generous in three places. Digits may follow the parts of a time directly as its
fraction, a fraction may follow the hours or the minutes, and one stray character may stand
between the time and the sign of the offset.
-/

namespace TripProposal.Calendar

open Text

/-! ### Digits -/

/-- The value of an ASCII digit. -/
def asciiDigit? (c : CodePoint) : Option Nat :=
  if c.isDigit then some (c.toNat - 48) else none

/-- A number of exactly `n` ASCII digits, and what follows it. -/
def fixedDigits? : Nat → Nat → List CodePoint → Option (Nat × List CodePoint)
  | 0, acc, rest => some (acc, rest)
  | _ + 1, _, [] => none
  | n + 1, acc, c :: rest =>
    match asciiDigit? c with
    | some d => fixedDigits? n (10 * acc + d) rest
    | none => none

/-! ### Dates -/

/-- The date part of a text, given whether its parts are separated by dashes. -/
def datePart? (text : List CodePoint) : Option Date :=
  match fixedDigits? 4 0 text with
  | none => none
  | some (year, rest) =>
    let dashed := rest.head? == some (.char '-')
    match if dashed then rest.drop 1 else rest with
    | 'W' :: rest =>
      match fixedDigits? 2 0 rest with
      | none => none
      | some (week, []) => Date.ofWeek? year week 1
      | some (week, rest) =>
        match if dashed then rest.head? == some (.char '-') else true with
        | false => none
        | true =>
          match fixedDigits? 1 0 (if dashed then rest.drop 1 else rest) with
          | some (weekday, _) => Date.ofWeek? year week weekday
          | none => none
    | rest =>
      match fixedDigits? 2 0 rest with
      | none => none
      | some (month, rest) =>
        match if dashed then rest.head? == some (.char '-') else true with
        | false => none
        | true =>
          match fixedDigits? 2 0 (if dashed then rest.drop 1 else rest) with
          | some (day, _) => Date.of? year month day
          | none => none

/-- Where the date part of a text ends; none when the text cannot hold one. A run of digits after
a week leaves open whether its first digit is a weekday: an even length of the whole run settles
that it is not. -/
def dateLength? (text : List CodePoint) : Option Nat :=
  let isDigitAt := fun k => (text[k]?).any CodePoint.isDigit
  if text.length < 7 then none
  else if text.length = 7 then some 7
  else if text[4]? = some (.char '-') then
    if text[5]? = some (.char 'W') then
      if text[8]? = some (.char '-') then
        if text.length = 9 then none
        else if isDigitAt 10 then some 8 else some 10
      else some 8
    else some 10
  else if text[4]? = some (.char 'W') then
    let digits := 7 + ((text.drop 7).takeWhile CodePoint.isDigit).length
    if digits < 9 then some digits
    else if digits % 2 = 0 then some 7 else some 8
  else some 8

/-! ### Times -/

/-- What comes after a two-digit part of a time. -/
inductive AfterPart
  /-- The text ends; the flag says whether one stray character was left. -/
  | finished (stray : Bool)
  | fraction (rest : List CodePoint)
  | part (rest : List CodePoint)
  | malformed

/-- Look at what follows a part, `colons` saying whether parts are separated by colons. -/
def afterPart (colons : Bool) : List CodePoint → AfterPart
  | [] => .finished false
  | [c] => if c.toNat < 128 then .finished (c != '\x00') else .malformed
  | c :: rest =>
    if colons && c == ':' then .part rest
    else if c == '.' || c == ',' then .fraction rest
    else if colons then .malformed
    else .part (c :: rest)

/-- A fraction of a second: six digits count, more are passed over. The flag says whether
something else follows. -/
def fractionOf? (text : List CodePoint) : Option (Nat × Bool) :=
  let count := min 6 text.length
  match fixedDigits? count 0 text with
  | none => none
  | some (n, rest) =>
    let after := rest.dropWhile CodePoint.isDigit
    some (n * Nat.pow 10 (6 - count), after.head?.any (· != .char '\x00'))

/-- The parts of a time from the `index`-th on, with the flag of text left over. -/
def clockParts? (colons : Bool) : Nat → Clock → List CodePoint → Option (Clock × Bool)
  | more, clock, text =>
    match fixedDigits? 2 0 text with
    | none => none
    | some (n, rest) =>
      let clock : Clock := match more with
        | 2 => { clock with hour := n }
        | 1 => { clock with minute := n }
        | _ => { clock with second := n }
      let colons := if more = 2 then rest.head? == some (.char ':') else colons
      match afterPart colons rest with
      | .finished stray => some (clock, stray)
      | .malformed => none
      | .fraction rest =>
        (fractionOf? rest).map fun (n, stray) => ({ clock with microsecond := n }, stray)
      | .part rest =>
        match more with
        | 0 => (fractionOf? rest).map fun (n, stray) => ({ clock with microsecond := n }, stray)
        | more + 1 => clockParts? colons more clock rest

/-- A time of day and whether a stray character was left behind it. -/
def clockOf? (text : List CodePoint) : Option (Clock × Bool) :=
  clockParts? false 2 .midnight text

/-- Whether a character starts the offset of a time. -/
def isZoneMark (c : CodePoint) : Bool :=
  c == '+' || c == '-' || c == 'Z'

/-- The offset behind a sign: below a day in size, and none at all if its whole seconds are
zero. -/
def zoneOffset? (negative : Bool) (text : List CodePoint) : Option Int :=
  match clockOf? text with
  | some (c, false) =>
    let seconds : Int := (c.hour * 60 + c.minute) * 60 + c.second
    if seconds = 0 then some 0
    else
      let total := seconds * 1000000 + c.microsecond
      if total < dayMicroseconds then some (if negative then -total else total) else none
  | _ => none

/-- A time with its offset, if it has one. -/
def timePart? (text : List CodePoint) : Option (Clock × Option Int) :=
  match clockOf? (text.takeWhile (!isZoneMark ·)), text.dropWhile (!isZoneMark ·) with
  | some (clock, stray), [] => if stray then none else some (clock, none)
  | some (clock, _), 'Z' :: rest =>
    if rest.head?.all (· == .char '\x00') then some (clock, some 0) else none
  | some (clock, _), sign :: rest =>
    (zoneOffset? (sign == '-') rest).map fun offset => (clock, some offset)
  | none, _ => none

/-- Whether a text consists of characters; a surrogate may stand at the first of the places for the
mark between date and time that has one. -/
def isIsoReadable (text : List CodePoint) : Bool :=
  match [7, 8, 10].find? fun k => (text[k]?).any (!·.isChar) with
  | some k => (text.eraseIdx k).all CodePoint.isChar
  | none => text.all CodePoint.isChar

/-- The moment that an ISO text names; midnight when it has no time. -/
def Moment.ofIso? (text : List CodePoint) : Option Moment :=
  if isIsoReadable text then
    match dateLength? text with
    | none => none
    | some n =>
      match datePart? (text.take n), text.drop n with
      | some date, [] => some (.ofDate date)
      | some date, _ :: time =>
        match timePart? time with
        | some (clock, offset?) => if clock.inRange then some ⟨date, clock, offset?⟩ else none
        | none => none
      | none, _ => none
  else none

end TripProposal.Calendar
