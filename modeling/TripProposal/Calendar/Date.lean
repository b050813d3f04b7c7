import TripProposal.Text.Search

/-!
# Calendar dates

Dates of the Gregorian calendar from year 1 to year 9999. A date carries the proof that its day
exists; days are counted from the first day of year 1, which was a Monday.
-/

namespace TripProposal.Calendar

open Text

/-- Whether a year has a 29 February. -/
def isLeap (year : Nat) : Bool :=
  year % 4 == 0 && (year % 100 != 0 || year % 400 == 0)

/-- Number of days of a month, zero when there is no such month. -/
def daysInMonth (year month : Nat) : Nat :=
  match month with
  | 2 => if isLeap year then 29 else 28
  | 4 | 6 | 9 | 11 => 30
  | 1 | 3 | 5 | 7 | 8 | 10 | 12 => 31
  | _ => 0

/-- Whether year, month and day name a day of the calendar. -/
def IsDay (year month day : Nat) : Prop :=
  1 ≤ year ∧ year ≤ 9999 ∧ 1 ≤ day ∧ day ≤ daysInMonth year month

instance (year month day : Nat) : Decidable (IsDay year month day) := by
  unfold IsDay; infer_instance

/-- A day of the calendar. -/
structure Date where
  year : Nat
  month : Nat
  day : Nat
  exists_day : IsDay year month day
deriving DecidableEq

namespace Date

/-- The date of a year, month and day, if there is one. -/
def of? (year month day : Nat) : Option Date :=
  if h : IsDay year month day then some ⟨year, month, day, h⟩ else none

/-! ### Counting days -/

/-- Days before the first day of a year. -/
def daysBeforeYear (year : Nat) : Nat :=
  let y := year - 1
  y * 365 + y / 4 - y / 100 + y / 400

/-- Days of a year before the first day of a month. -/
def daysBeforeMonth (year month : Nat) : Nat :=
  (List.range (month - 1)).foldl (fun days m => days + daysInMonth year (m + 1)) 0

/-- Number of the day, counted from one. -/
def ordinal (d : Date) : Nat :=
  daysBeforeYear d.year + daysBeforeMonth d.year d.month + d.day

/-- The month and day of a day of the year counted from one, looked for from `month` on. -/
def monthOfDay (year : Nat) : Nat → Nat → Nat → Nat × Nat
  | 0, month, day => (month, day)
  | more + 1, month, day =>
    if day ≤ daysInMonth year month then (month, day)
    else monthOfDay year more (month + 1) (day - daysInMonth year month)

/-- The year that holds a day: an estimate that is never too late, moved on while it is early. -/
def yearOfOrdinal (n : Nat) : Nat :=
  let guess := (n - 1) / 366 + 1
  (List.range 30).foldl (fun y _ => if daysBeforeYear (y + 1) < n then y + 1 else y) guess

/-- The date with a given number, if it lies in the calendar. -/
def ofOrdinal? (n : Int) : Option Date :=
  if n < 1 ∨ 3652059 < n then none
  else
    let year := yearOfOrdinal n.toNat
    let (month, day) := monthOfDay year 11 1 (n.toNat - daysBeforeYear year)
    of? year month day

/-! ### ISO weeks -/

/-- Day of the week of the first of January, Monday being zero. -/
def firstWeekday (year : Nat) : Nat :=
  daysBeforeYear year % 7

/-- Number of ISO weeks of a year: 53 when it starts on a Thursday, or on a Wednesday in a leap
year. -/
def weeksInYear (year : Nat) : Nat :=
  if firstWeekday year = 3 ∨ (firstWeekday year = 2 ∧ isLeap year) then 53 else 52

/-- The date of a day of an ISO week; week 1 is the one that holds the first Thursday. -/
def ofWeek? (year week weekday : Nat) : Option Date :=
  if 1 ≤ year ∧ 1 ≤ week ∧ week ≤ weeksInYear year ∧ 1 ≤ weekday ∧ weekday ≤ 7 then
    let start : Int := daysBeforeYear year + 1 - firstWeekday year
    let start := if 3 < firstWeekday year then start + 7 else start
    ofOrdinal? (start + (week - 1 : Nat) * 7 + (weekday - 1 : Nat))
  else none

end Date

/-! ### Names of months -/

/-- The names of the months. -/
def monthNames : List Text :=
  ["January", "February", "March", "April", "May", "June", "July", "August", "September",
   "October", "November", "December"]

/-- The name of a month. -/
def monthName (month : Nat) : Text :=
  (monthNames[month - 1]?).getD ""

/-- The first three letters of the name of a month. -/
def monthShort (month : Nat) : Text :=
  onString (·.take 3) (monthName month)

/-- The date as `YYYY-MM-DD`. -/
def Date.isoText (d : Date) : List CodePoint :=
  decimalPadded 4 d.year ++ .char '-' :: decimalPadded 2 d.month ++
    .char '-' :: decimalPadded 2 d.day

/-- The date in long form, `October 15, 2026`. -/
def Date.longText (d : Date) : Text :=
  monthName d.month ++ " " ++ Text.ofNat d.day ++ ", " ++ Text.ofNat d.year

/-- The month and day in short form, `Oct 15`. -/
def Date.shortText (d : Date) : Text :=
  monthShort d.month ++ " " ++ Text.ofNat d.day

end TripProposal.Calendar
