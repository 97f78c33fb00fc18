import DeviceGateway.Certificate.Validity
import DeviceGateway.Time.Instant

/-!
# Timestamps of certificates

The exact form of a time: a year of two digits from 1950 to 2049 and of four digits outside, all
other parts two digits, and the letter Z.
-/

namespace DeviceGateway.Certificate

open Calendar (Instant)

/-! ### Writing -/

def twoDigits (n : Nat) : Bytes := [UInt8.ofNat (48 + n / 10 % 10), UInt8.ofNat (48 + n % 10)]

/-- Whether a time has a year of two digits. -/
def isShortYear (year : Nat) : Bool := 1950 ≤ year && year < 2050

/-- The digits of a time after the year, and the letter Z. -/
def timeTail (i : Instant) : Bytes :=
  twoDigits i.date.month ++ twoDigits i.date.day ++ twoDigits i.hour ++ twoDigits i.minute
    ++ twoDigits i.second ++ [0x5A]

def encodeTime (i : Instant) : Bytes :=
  if isShortYear i.date.year then
    Der.writePrimitive Der.utcTime (twoDigits (i.date.year % 100) ++ timeTail i)
  else
    Der.writePrimitive Der.generalizedTime
      (twoDigits (i.date.year / 100) ++ twoDigits (i.date.year % 100) ++ timeTail i)

def encodeValidity (notBefore notAfter : Instant) : Bytes :=
  Der.writeSequence (encodeTime notBefore ++ encodeTime notAfter)

/-! ### Reading -/

def realInstant? (year month day hour minute second : Nat) : Option Instant :=
  let i : Instant := ⟨⟨year, month, day⟩, hour, minute, second⟩
  if i.isReal then some i else none

def timeOf? (e : Der.Element) : Option Instant :=
  if e.number = Der.utcTime then
    match readPairs 6 e.content with
    | some ([year, month, day, hour, minute, second], [0x5A]) =>
      realInstant? (if year < 50 then 2000 + year else 1900 + year) month day hour minute second
    | _ => none
  else if e.number = Der.generalizedTime then
    match readPairs 7 e.content with
    | some ([century, year, month, day, hour, minute, second], [0x5A]) =>
      realInstant? (century * 100 + year) month day hour minute second
    | _ => none
  else none

end DeviceGateway.Certificate
