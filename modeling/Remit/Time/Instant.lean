/-!
# Instants

A point in time is a number of seconds since the start of 1970 in UTC and a number of nanoseconds
into that second. A leap second has no number of its own: it is the second before it with
nanoseconds from one billion on. Days are counted in the proleptic Gregorian calendar.
-/

namespace Remit

/-- A point in time. -/
structure Instant where
  /-- Seconds since 1970-01-01T00:00:00Z. -/
  seconds : Int
  /-- Nanoseconds into the second; from 10⁹ to below 2·10⁹ in a leap second. -/
  nanoseconds : Nat
  deriving DecidableEq, Inhabited

/-- The whole milliseconds since 1970 as a word, and zero for what was before. -/
def Instant.milliseconds (instant : Instant) : UInt64 :=
  UInt64.ofNat (instant.seconds * 1000 + instant.nanoseconds / 1000000).toNat

/-! ### Calendar dates -/

/-- A date of the proleptic Gregorian calendar; months and days are counted from one. -/
structure Date where
  year : Int
  month : Nat
  day : Nat
  deriving DecidableEq

namespace Date

/-- Years divisible by four, but of the centuries only those divisible by 400. -/
def isLeapYear (year : Int) : Bool :=
  year % 4 = 0 && (year % 100 ≠ 0 || year % 400 = 0)

/-- The number of days of a month. -/
def daysInMonth (year : Int) (month : Nat) : Nat :=
  match month with
  | 2 => if isLeapYear year then 29 else 28
  | 4 | 6 | 9 | 11 => 30
  | _ => 31

/-- The day exists in the calendar. -/
def isValid (date : Date) : Bool :=
  1 ≤ date.month && date.month ≤ 12 && 1 ≤ date.day &&
    date.day ≤ daysInMonth date.year date.month

/-- Days from the start of year 0 to the start of the year. -/
def daysBeforeYear (year : Int) : Int :=
  365 * year + (year + 3) / 4 - (year + 99) / 100 + (year + 399) / 400

/-- Days of the year before the month. -/
def daysBeforeMonth (year : Int) : (month : Nat) → Nat
  | 0 | 1 => 0
  | month + 1 => daysBeforeMonth year month + daysInMonth year month

/-- Days from 1970-01-01 to the date. -/
def toDays (date : Date) : Int :=
  daysBeforeYear date.year - 719528 + daysBeforeMonth date.year date.month + date.day - 1

/-- The month that holds the day with the given offset, looking from `month` on; `remaining` is
the number of months left to look at. -/
def ofDayOfMonths (year : Int) : (month offset remaining : Nat) → Date
  | month, offset, 0 => ⟨year, month, offset + 1⟩
  | month, offset, remaining + 1 =>
    if offset < daysInMonth year month then ⟨year, month, offset + 1⟩
    else ofDayOfMonths year (month + 1) (offset - daysInMonth year month) remaining

/-- The date that lies the given number of days after 1970-01-01. The year is estimated from the
mean length of a year, which is never more than one year too late or too early. -/
def ofDays (days : Int) : Date :=
  let total := days + 719528
  let guess := total * 400 / 146097
  let year :=
    if total < daysBeforeYear guess then guess - 1
    else if daysBeforeYear (guess + 1) ≤ total then guess + 1
    else guess
  ofDayOfMonths year 1 (total - daysBeforeYear year).toNat 11

end Date

end Remit
