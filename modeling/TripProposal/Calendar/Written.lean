import TripProposal.Calendar.Iso
import TripProposal.Number.Reading
import TripProposal.Text.Blank

/-!
# Dates as people write them

`October 15, 2026`, `15 Oct 2026`, `10/15/2026` and the like: each form is a list of pieces that
a text has to consist of. Names of months may be written in any letter case, blanks between words
in any number. `Moment.read?` tries the ISO forms first and then these.
-/

namespace TripProposal.Calendar

open Text Number

/-- A piece of a written date. -/
inductive Piece
  | monthName
  /-- The first three letters of the name of a month. -/
  | monthShort
  | month
  /-- The number of a day; a space may stand in for a leading zero. -/
  | day
  | year
  | gap
  | mark (c : CodePoint)
deriving DecidableEq

/-- The parts of a date read so far. -/
structure DateParts where
  year : Nat := 0
  month : Nat := 0
  day : Nat := 0

/-- The number of the first of the names that the text starts with in any letter case, counted
from `index`, and what follows it. -/
def takeName? (names : List Text) (index : Nat) (text : List CodePoint) :
    Option (Nat × List CodePoint) :=
  match names with
  | [] => none
  | name :: rest =>
    let letters := name.toList.map asciiLower
    if letters.isPrefixOf (text.map asciiLower) then some (index, text.drop letters.length)
    else takeName? rest (index + 1) text

/-- The number of a month: `10` to `12`, or one digit with or without a zero. -/
def takeMonth? : List CodePoint → Option (Nat × List CodePoint)
  | '1' :: '0' :: rest => some (10, rest)
  | '1' :: '1' :: rest => some (11, rest)
  | '1' :: '2' :: rest => some (12, rest)
  | '0' :: d :: rest => if '1' ≤ d ∧ d ≤ '9' then some (d.toNat - 48, rest) else none
  | d :: rest => if '1' ≤ d ∧ d ≤ '9' then some (d.toNat - 48, rest) else none
  | [] => none

/-- One digit from one to nine. -/
def takeDayDigit? : List CodePoint → Option (Nat × List CodePoint)
  | d :: rest => if '1' ≤ d ∧ d ≤ '9' then some (d.toNat - 48, rest) else none
  | [] => none

/-- The number of a day: two digits up to 31 where the text has them, else one digit. The second
digit may be one of any script after a one or a two. -/
def takeDay? (text : List CodePoint) : Option (Nat × List CodePoint) :=
  match text with
  | '3' :: '0' :: rest => some (30, rest)
  | '3' :: '1' :: rest => some (31, rest)
  | ' ' :: rest => takeDayDigit? rest
  | '0' :: rest => takeDayDigit? rest
  | a :: b :: rest =>
    match if a = '1' ∨ a = '2' then digitValue? b else none with
    | some d => some (10 * (a.toNat - 48) + d, rest)
    | none => takeDayDigit? text
  | _ => takeDayDigit? text

/-- A number of exactly `n` digits of any script, and what follows it. -/
def takeYear? : Nat → Nat → List CodePoint → Option (Nat × List CodePoint)
  | 0, acc, rest => some (acc, rest)
  | _ + 1, _, [] => none
  | n + 1, acc, c :: rest =>
    match digitValue? c with
    | some d => takeYear? n (10 * acc + d) rest
    | none => none

/-- Read one piece. -/
def Piece.take? (piece : Piece) (parts : DateParts) (text : List CodePoint) :
    Option (DateParts × List CodePoint) :=
  match piece with
  | .monthName => (takeName? monthNames 1 text).map fun (n, rest) => ({ parts with month := n }, rest)
  | .monthShort =>
    (takeName? (monthNames.map (onString (·.take 3))) 1 text).map fun (n, rest) =>
      ({ parts with month := n }, rest)
  | .month => (takeMonth? text).map fun (n, rest) => ({ parts with month := n }, rest)
  | .day => (takeDay? text).map fun (n, rest) => ({ parts with day := n }, rest)
  | .year => (takeYear? 4 0 text).map fun (n, rest) => ({ parts with year := n }, rest)
  | .gap => (takeGap? text).map fun rest => (parts, rest)
  | .mark m =>
    match text with
    | c :: rest => if c = m then some (parts, rest) else none
    | [] => none

/-- Read pieces one after the other; nothing may be left. -/
def takeAll? : List Piece → DateParts → List CodePoint → Option DateParts
  | [], parts, [] => some parts
  | [], _, _ :: _ => none
  | piece :: pieces, parts, text =>
    match piece.take? parts text with
    | some (parts, rest) => takeAll? pieces parts rest
    | none => none

/-- The written forms, in the order in which they are tried. -/
def writtenForms : List (List Piece) :=
  [[.monthName, .gap, .day, .mark ',', .gap, .year],
   [.monthShort, .gap, .day, .mark ',', .gap, .year],
   [.monthName, .gap, .day, .gap, .year],
   [.monthShort, .gap, .day, .gap, .year],
   [.day, .gap, .monthName, .gap, .year],
   [.day, .gap, .monthShort, .gap, .year],
   [.month, .mark '/', .day, .mark '/', .year],
   [.year, .mark '/', .month, .mark '/', .day]]

/-- The date that a text in one of the written forms names. -/
def Date.ofWritten? (text : List CodePoint) : Option Date :=
  writtenForms.findSome? fun form =>
    (takeAll? form {} text).bind fun parts => Date.of? parts.year parts.month parts.day

/-- The moment that a text names, in an ISO form or a written one. A `Z` for UTC may stand
wherever its numeric form may. -/
def Moment.read? (text : List CodePoint) : Option Moment :=
  let candidate := trim text
  match Moment.ofIso? (replaceAll ['Z'] "+00:00".codePoints candidate) with
  | some m => some m
  | none => (Date.ofWritten? candidate).map .ofDate

end TripProposal.Calendar
