import TripProposal.Calendar.Date

/-!
# Moments

A moment is a date with a time of day, and possibly the offset of its local time from UTC.
-/

namespace TripProposal.Calendar

open Text

/-- A time of day. -/
structure Clock where
  hour : Nat
  minute : Nat
  second : Nat
  microsecond : Nat
deriving DecidableEq

/-- Midnight. -/
def Clock.midnight : Clock := ⟨0, 0, 0, 0⟩

/-- Whether hour, minute and second are in range. -/
def Clock.inRange (c : Clock) : Bool :=
  c.hour < 24 && c.minute < 60 && c.second < 60

/-- The time since midnight in microseconds. -/
def Clock.microseconds (c : Clock) : Nat :=
  ((c.hour * 60 + c.minute) * 60 + c.second) * 1000000 + c.microsecond

/-- The time of day that lies some microseconds after midnight. -/
def Clock.ofMicroseconds (n : Nat) : Clock :=
  let seconds := n / 1000000
  ⟨seconds / 3600, seconds / 60 % 60, seconds % 60, n % 1000000⟩

/-- A moment: date, time of day, and the offset from UTC in microseconds when it is known. -/
structure Moment where
  date : Date
  clock : Clock
  /-- Offset of the local time from UTC in microseconds. -/
  offset? : Option Int
deriving DecidableEq

/-- Microseconds of a day. -/
def dayMicroseconds : Int := 86400000000

/-- The start of a day, without an offset. -/
def Moment.ofDate (d : Date) : Moment := ⟨d, .midnight, none⟩

/-- A time as `HH:MM:SS`, with six more digits unless the microseconds are zero. -/
def Clock.isoText (c : Clock) : List CodePoint :=
  decimalPadded 2 c.hour ++ .char ':' :: decimalPadded 2 c.minute ++
    .char ':' :: decimalPadded 2 c.second ++
    (if c.microsecond = 0 then [] else .char '.' :: decimalPadded 6 c.microsecond)

/-- An offset as `+HH:MM`, with seconds and microseconds only where they are not zero. -/
def offsetText (offset : Int) : List CodePoint :=
  let c := Clock.ofMicroseconds offset.natAbs
  let sign : CodePoint := if offset < 0 then '-' else '+'
  sign :: decimalPadded 2 c.hour ++ .char ':' :: decimalPadded 2 c.minute ++
    (if c.second = 0 ∧ c.microsecond = 0 then []
     else .char ':' :: decimalPadded 2 c.second ++
       (if c.microsecond = 0 then [] else .char '.' :: decimalPadded 6 c.microsecond))

/-- The moment in ISO form, `2026-10-15T08:30:00+05:30`. -/
def Moment.isoText (m : Moment) : List CodePoint :=
  m.date.isoText ++ .char 'T' :: m.clock.isoText ++
    (match m.offset? with
     | some offset => offsetText offset
     | none => [])

/-- The same moment in UTC; one without an offset is taken to be in UTC already. None when the
date would leave the calendar. -/
def Moment.toUtc? (m : Moment) : Option Moment :=
  match m.offset? with
  | none => some m
  | some offset =>
    let total := (m.date.ordinal : Int) * dayMicroseconds + m.clock.microseconds - offset
    (Date.ofOrdinal? (total.fdiv dayMicroseconds)).map fun date =>
      ⟨date, .ofMicroseconds (total.fmod dayMicroseconds).toNat, some 0⟩

/-- Date and time as they stand, marked as UTC. The year is not padded. -/
def Moment.localStamp (m : Moment) : Text :=
  Text.ofList (decimal m.date.year ++ .char '-' :: decimalPadded 2 m.date.month ++ .char '-' ::
    decimalPadded 2 m.date.day ++ .char ' ' :: decimalPadded 2 m.clock.hour ++ .char ':' ::
    decimalPadded 2 m.clock.minute ++ .char ':' :: decimalPadded 2 m.clock.second ++ " UTC".codePoints)

/-- The stamp in the footer of a proposal, `2026-10-19 14:30:00 UTC`; none when the date in UTC
would leave the calendar. -/
def Moment.stamp? (m : Moment) : Option Text :=
  m.toUtc?.map Moment.localStamp

/-- The moment as a name for a directory, `20261019_143000`. -/
def Moment.directoryName (m : Moment) : Text :=
  Text.ofList (decimal m.date.year ++ decimalPadded 2 m.date.month ++
    decimalPadded 2 m.date.day ++ .char '_' :: decimalPadded 2 m.clock.hour ++
    decimalPadded 2 m.clock.minute ++ decimalPadded 2 m.clock.second)

end TripProposal.Calendar
