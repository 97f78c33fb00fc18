import DeviceGateway.Time.Calendar

/-!
# Instants

Instants to the second, as a date and a time of day, and as the seconds from 1970-01-01 00:00:00.
-/

namespace DeviceGateway.Calendar

structure Instant where
  date : Date
  hour : Nat
  minute : Nat
  second : Nat
  deriving DecidableEq, Repr

namespace Instant

/-- Whether an instant exists; there are no leap seconds. -/
def isReal (i : Instant) : Bool := i.date.isReal && i.hour ≤ 23 && i.minute ≤ 59 && i.second ≤ 59

def midnight (d : Date) : Instant := ⟨d, 0, 0, 0⟩

/-- The seconds of an instant of the year 1970 or later. -/
def toSeconds (i : Instant) : Nat :=
  i.date.toDays * 86400 + i.hour * 3600 + i.minute * 60 + i.second

def ofSeconds (seconds : Nat) : Instant :=
  let rest := seconds % 86400
  ⟨Date.ofDays (seconds / 86400), rest / 3600, rest / 60 % 60, rest % 60⟩

def lastSecond : Nat := 253402300799

/-! ### Days from now -/

/-- The sum of two words, or the largest word where the sum is none. -/
def addWords (a b : UInt64) : UInt64 :=
  if a + b < a then UInt64.ofNat (UInt64.size - 1) else a + b

/-- A word as a signed one, or the largest signed one where it is none. -/
def signedWord (w : UInt64) : Int64 :=
  if w.toNat < 9223372036854775808 then w.toInt64 else Int64.maxValue

def secondsOfDays (days : UInt32) : UInt64 := days.toUInt64 * 86400

/-- The seconds from 1970-01-01 on once a number of days has passed from now. -/
def secondsAfter (now : UInt64) (days : UInt32) : Int64 :=
  signedWord (addWords now (secondsOfDays days))

/-! ### Texts -/

def padded (width n : Nat) : String :=
  String.ofList (List.replicate (width - (Nat.toDigits 10 n).length) '0' ++ Nat.toDigits 10 n)

/-- The text of an instant and a count of microseconds, in the form of logs. -/
def text (i : Instant) (micros : Nat) : String :=
  padded 4 i.date.year ++ "-" ++ padded 2 i.date.month ++ "-" ++ padded 2 i.date.day ++ "T"
    ++ padded 2 i.hour ++ ":" ++ padded 2 i.minute ++ ":" ++ padded 2 i.second ++ "."
    ++ padded 6 micros ++ "Z"

end Instant
end DeviceGateway.Calendar
