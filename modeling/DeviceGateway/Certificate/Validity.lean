import DeviceGateway.Der.Element
import DeviceGateway.Time.Calendar

/-!
# Times in certificates

A time is written in digits, with two or four for the year, and must name a real day. The seconds
may be left out. The short form ends with a zone, the long form with the letter Z.
-/

namespace DeviceGateway.Certificate

def twoDigits? (a b : UInt8) : Option Nat :=
  let digit := fun (c : UInt8) => if 48 ≤ c.toNat ∧ c.toNat ≤ 57 then some (c.toNat - 48) else none
  do some ((← digit a) * 10 + (← digit b))

/-- The numbers that start a text of digits, two digits each, with what follows them. -/
def readPairs : Nat → Bytes → Option (List Nat × Bytes)
  | 0, bs => some ([], bs)
  | n + 1, a :: b :: rest => do
    let v ← twoDigits? a b
    let (vs, rest) ← readPairs n rest
    some (v :: vs, rest)
  | _ + 1, _ => none

def isVisible (bs : Bytes) : Bool := bs.all fun b => 0x20 ≤ b && b ≤ 0x7F

def isInstant (year month day hour minute second : Nat) : Bool :=
  (Calendar.Date.mk year month day).isReal && hour ≤ 23 && minute ≤ 59 && second ≤ 59

/-- Whether a text is a zone: Z, or a sign with hours and minutes. -/
def isZone : Bytes → Bool
  | [0x5A] => true
  | [s, h1, h2, m1, m2] =>
    (s == 0x2B || s == 0x2D) &&
      match twoDigits? h1 h2, twoDigits? m1 m2 with
      | some h, some m => h ≤ 25 && m ≤ 59
      | _, _ => false
  | _ => false

/-- The seconds that start a text, none if a single character is left, with what follows them. -/
def readSeconds : Bytes → Option (Nat × Bytes)
  | [] => none
  | [zone] => some (0, [zone])
  | a :: b :: rest => (twoDigits? a b).map fun v => (v, rest)

/-- Whether a text is a time with a year of two digits. -/
def isShortTime (bs : Bytes) : Bool :=
  isVisible bs &&
    match readPairs 5 bs with
    | some ([year, month, day, hour, minute], rest) =>
      match readSeconds rest with
      | some (second, zone) => isInstant year month day hour minute second && isZone zone
      | none => false
    | _ => false

/-- Whether a text is the fraction of a second, at most three digits, and the letter Z. -/
def isFractionZ : Bytes → Bool
  | [0x5A] => true
  | 0x2E :: rest =>
    let digits := rest.takeWhile fun b => 48 ≤ b.toNat && b.toNat ≤ 57
    rest.drop digits.length == [0x5A] && digits.length ≤ 3
  | _ => false

/-- Whether a text is a time with a year of four digits. -/
def isLongTime (bs : Bytes) : Bool :=
  isVisible bs &&
    match readPairs 6 bs with
    | some ([century, year, month, day, hour, minute], rest) =>
      match readSeconds rest with
      | some (second, rest) =>
        isInstant (century * 100 + year) month day hour minute second && isFractionZ rest
      | none => false
    | _ => false

def readTime (bs : Bytes) : Option Bytes := do
  let (e, rest) ← Der.readElement bs
  if e.number = Der.utcTime ∧ isShortTime e.content then some rest
  else if e.number = Der.generalizedTime ∧ isLongTime e.content then some rest
  else none

def readValidity (bs : Bytes) : Option Bytes := do
  let (e, rest) ← Der.readTagged Der.sequence bs
  let times ← readTime e.content
  let _ ← readTime times
  some rest

end DeviceGateway.Certificate
