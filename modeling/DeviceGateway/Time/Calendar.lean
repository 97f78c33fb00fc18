/-!
# The Gregorian calendar

Dates of the proleptic Gregorian calendar, and the count of days from 1970-01-01.
-/

namespace DeviceGateway.Calendar

structure Date where
  year : Nat
  month : Nat
  day : Nat
  deriving DecidableEq, Repr

def isLeap (year : Nat) : Bool := year % 4 == 0 && (year % 100 != 0 || year % 400 == 0)

def daysInMonth (year month : Nat) : Nat :=
  if month = 2 then (if isLeap year then 29 else 28)
  else if month = 4 ∨ month = 6 ∨ month = 9 ∨ month = 11 then 30
  else 31

def daysInYear (year : Nat) : Nat := if isLeap year then 366 else 365

def Date.isReal (d : Date) : Bool :=
  1 ≤ d.month && d.month ≤ 12 && 1 ≤ d.day && d.day ≤ daysInMonth d.year d.month

def daysBeforeMonth (year : Nat) : Nat → Nat
  | 0 => 0
  | 1 => 0
  | m + 2 => daysBeforeMonth year (m + 1) + daysInMonth year (m + 1)

/-- The days of the `n` years from 1970 on. -/
def daysOfYears : Nat → Nat
  | 0 => 0
  | n + 1 => daysOfYears n + daysInYear (1970 + n)

/-- The days from 1970-01-01 to a date of a later year or the same. -/
def Date.toDays (d : Date) : Nat :=
  daysOfYears (d.year - 1970) + daysBeforeMonth d.year d.month + (d.day - 1)

/-- The month and the day of the `days`-th day after the first of a month; `fuel` bounds the months
that are looked at. -/
def findMonth (year : Nat) : Nat → Nat → Nat → Nat × Nat
  | 0, month, days => (month, days + 1)
  | fuel + 1, month, days =>
    if days < daysInMonth year month then (month, days + 1)
    else findMonth year fuel (month + 1) (days - daysInMonth year month)

/-- The date of the `days`-th day after the first of a year; `fuel` bounds the years that are
looked at. -/
def findYear : Nat → Nat → Nat → Date
  | 0, year, days => let md := findMonth year 11 1 days; ⟨year, md.1, md.2⟩
  | fuel + 1, year, days =>
    if days < daysInYear year then let md := findMonth year 11 1 days; ⟨year, md.1, md.2⟩
    else findYear fuel (year + 1) (days - daysInYear year)

def Date.ofDays (days : Nat) : Date := findYear days 1970 days

end DeviceGateway.Calendar
