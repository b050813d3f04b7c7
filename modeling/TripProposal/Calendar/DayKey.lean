import TripProposal.Calendar.Date
import TripProposal.Number.Reading
import TripProposal.Text.Blank
import TripProposal.Text.Digit

/-!
# Day keys

Itinerary days and ports are matched by the day they name, as a `YYYY-MM-DD` key. Three spellings
are read: the key itself, `May 29, 2026` and `29 May 2026`; in the last two the year may be
missing and the comma is optional. A key is not checked against the calendar.
-/

namespace TripProposal.Calendar

open Text Number

/-- Spellings of the months, in small letters. -/
def monthWords : List (Text × Nat) :=
  [("jan", 1), ("january", 1), ("feb", 2), ("february", 2), ("mar", 3), ("march", 3),
   ("apr", 4), ("april", 4), ("may", 5), ("jun", 6), ("june", 6), ("jul", 7), ("july", 7),
   ("aug", 8), ("august", 8), ("sep", 9), ("sept", 9), ("september", 9), ("oct", 10),
   ("october", 10), ("nov", 11), ("november", 11), ("dec", 12), ("december", 12)]

/-- The month that a word names in any letter case. -/
def monthOfWord? (word : List CodePoint) : Option Nat :=
  (monthWords.find? fun (w, _) => w.toList == word.map asciiLower).map (·.2)

/-- Whether a text has the shape of a key: digits of any script in groups of four, two and two. -/
def isDayKey (text : List CodePoint) : Bool :=
  match text with
  | [a, b, c, d, '-', e, f, '-', g, h] => [a, b, c, d, e, f, g, h].all isDecimalDigit
  | _ => false

/-- The letters that a text starts with, and what follows them. -/
def takeLetters (text : List CodePoint) : List CodePoint × List CodePoint :=
  (text.takeWhile CodePoint.isAlpha, text.dropWhile CodePoint.isAlpha)

/-- A day of one or two digits, and what follows it. -/
def takeDayNumber? (text : List CodePoint) : Option (Nat × List CodePoint) :=
  match takeDigits text with
  | ([], _) => none
  | (digits, rest) => if digits.length ≤ 2 then some (valueOfDigits 0 digits, rest) else none

/-- The end of a spelling: nothing, or a year of four digits after blanks and at most one
comma. -/
def yearEnding? (text : List CodePoint) : Option (Option Nat) :=
  match text with
  | [] => some none
  | _ =>
    match takeGap? (if text.head? = some (.char ',') then text.drop 1 else text) with
    | none => none
    | some rest =>
      match takeDigits rest with
      | (digits, []) => if digits.length = 4 then some (some (valueOfDigits 0 digits)) else none
      | _ => none

/-- The month word, the day and the year of a spelling, the year as far as it is written. -/
def spelling? (text : List CodePoint) : Option (List CodePoint × Nat × Option Nat) :=
  match takeLetters text with
  | ([], _) =>
    match takeDayNumber? text with
    | none => none
    | some (day, rest) =>
      match (takeGap? rest).map takeLetters with
      | some (word, rest) =>
        if word.isEmpty then none else (yearEnding? rest).map fun year => (word, day, year)
      | none => none
  | (word, rest) =>
    match (takeGap? rest).bind takeDayNumber? with
    | some (day, rest) => (yearEnding? rest).map fun year => (word, day, year)
    | none => none

/-- A year in a key: four digits or more, a minus sign counting as one of them. -/
def yearText (year : Int) : List CodePoint :=
  if year < 0 then '-' :: decimalPadded 3 year.natAbs else decimalPadded 4 year.toNat

/-- The key of the day that a text names, a missing year being `fallbackYear`. -/
def dayKey? (fallbackYear : Int) (text : List CodePoint) : Option (List CodePoint) :=
  let candidate := trim text
  if candidate.isEmpty then none
  else if isDayKey candidate then some candidate
  else
    match spelling? candidate with
    | none => none
    | some (word, day, year) =>
      match monthOfWord? word with
      | none => none
      | some month =>
        if 1 ≤ day ∧ day ≤ 31 then
          let year : Int := match year with
            | some y => y
            | none => fallbackYear
          some (yearText year ++ .char '-' :: decimalPadded 2 month ++ .char '-' :: decimalPadded 2 day)
        else none

end TripProposal.Calendar
