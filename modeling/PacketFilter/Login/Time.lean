import PacketFilter.Text.Basic

/-!
# Points in time

A login record counts seconds and microseconds from the start of 1970. Dates are those of the
Gregorian calendar, in universal time, for any number of seconds in either direction.

The calendar is counted in cycles of four hundred years from the first of March of the year zero:
when years start in March, the leap day is the last of its year, and where a month starts is a
linear function of its number.
-/

namespace PacketFilter

/-- Seconds and microseconds since the start of 1970. -/
structure Timestamp where
  seconds : Int
  micros : Nat
  deriving DecidableEq, Repr

structure Date where
  year : Int
  month : Nat
  day : Nat
  deriving DecidableEq, Repr

namespace Date

/-- The number of days of four hundred years. -/
def cycle : Nat := 146097

/-- The number of days from the first of March of the year zero to the start of 1970. -/
def epoch : Nat := 719468

/-- The date of a day of a cycle that starts in the given year. -/
def ofCycle (start : Int) (n : Nat) : Date :=
  let year := (n - n / 1460 + n / 36524 - n / 146096) / 365
  let day := n - (365 * year + year / 4 - year / 100)
  let march := (5 * day + 2) / 153
  let month := if march < 10 then march + 3 else march - 9
  { year := start + year + (if month ≤ 2 then 1 else 0)
    month := month
    day := day - (153 * march + 2) / 5 + 1 }

/-- The date of a day, counted from the start of 1970. -/
def ofDays (days : Int) : Date :=
  let n := days + epoch
  ofCycle (n / cycle * 400) (n % cycle).toNat

/-- A date as `2010-07-02`. -/
def print (d : Date) : Text :=
  Text.padZero 4 (Text.decimal d.year.toNat) ++ "-" ++ Text.padZero 2 (Text.decimal d.month) ++
    "-" ++ Text.padZero 2 (Text.decimal d.day)

end Date

namespace Timestamp

def secondsPerDay : Nat := 86400

def date (t : Timestamp) : Date := .ofDays (t.seconds / secondsPerDay)

/-- The time of day as `07:00:00`. -/
def clock (t : Timestamp) : Text :=
  let n := (t.seconds % secondsPerDay).toNat
  Text.joinWith ":" ([n / 3600, n / 60 % 60, n % 60].map fun k ↦ Text.padZero 2 (Text.decimal k))

/-- The microseconds in six digits. -/
def fraction (t : Timestamp) : Text := Text.padZero 6 (Text.decimal t.micros)

/-- The fraction of a second with as few digits as are exact, in steps of three. -/
def shortFraction (t : Timestamp) : Text :=
  if t.micros = 0 then []
  else if t.micros % 1000 = 0 then "." ++ t.fraction.take 3
  else "." ++ t.fraction

/-- A time as `2010-07-02T07:00:00.135790Z`. -/
def print (t : Timestamp) : Text := t.date.print ++ "T" ++ t.clock ++ t.shortFraction ++ "Z"

/-- A time as `2010-07-02 07:00:00.135790`. -/
def listing (t : Timestamp) : Text := t.date.print ++ " " ++ t.clock ++ "." ++ t.fraction

end Timestamp
end PacketFilter
