/-!
# Whole numbers in text

Digits of a radix up to sixteen, read from the left against a limit. The three ways to fail are
kept apart: nothing to read, a character that is no digit, and a value at or past the limit; the
leftmost fault is the one reported.
-/

namespace DeviceGateway.Text

/-- Why a text is not a numeral of the wanted range. -/
inductive NumeralFault where
  | empty
  | invalidDigit
  | tooLarge
  | tooSmall
  deriving DecidableEq, Repr

def NumeralFault.message : NumeralFault → String
  | .empty => "cannot parse integer from empty string"
  | .invalidDigit => "invalid digit found in string"
  | .tooLarge => "number too large to fit in target type"
  | .tooSmall => "number too small to fit in target type"

/-- The value of a digit of the given radix, letters in either case. -/
def digitValue? (radix : Nat) (c : Char) : Option Nat :=
  let v :=
    if '0' ≤ c ∧ c ≤ '9' then some (c.toNat - 48)
    else if 'a' ≤ c ∧ c ≤ 'z' then some (c.toNat - 87)
    else if 'A' ≤ c ∧ c ≤ 'Z' then some (c.toNat - 55)
    else none
  v.filter (· < radix)

/-- Continue a numeral of value `acc` with more digits, all values staying below `limit`. -/
def readDigits (radix limit acc : Nat) : List Char → Except NumeralFault Nat
  | [] => .ok acc
  | c :: rest =>
    match digitValue? radix c with
    | none => .error .invalidDigit
    | some d =>
      if acc * radix + d < limit then readDigits radix limit (acc * radix + d) rest
      else .error .tooLarge

/-- A numeral below `limit` with an optional plus sign. -/
def readNat (radix limit : Nat) : List Char → Except NumeralFault Nat
  | [] => .error .empty
  | ['+'] => .error .invalidDigit
  | ['-'] => .error .invalidDigit
  | '+' :: rest => readDigits radix limit 0 rest
  | cs => readDigits radix limit 0 cs

/-- A numeral in `[-limit, limit)` with an optional sign. -/
def readInt (radix limit : Nat) : List Char → Except NumeralFault Int
  | [] => .error .empty
  | ['+'] => .error .invalidDigit
  | ['-'] => .error .invalidDigit
  | '+' :: rest => (readDigits radix limit 0 rest).map Int.ofNat
  | '-' :: rest =>
    match readDigits radix (limit + 1) 0 rest with
    | .ok n => .ok (-(n : Int))
    | .error .tooLarge => .error .tooSmall
    | .error e => .error e
  | cs => (readDigits radix limit 0 cs).map Int.ofNat

/-- The decimal text of a natural number. -/
def natChars (n : Nat) : List Char := Nat.toDigits 10 n

def natText (n : Nat) : String := String.ofList (natChars n)

def intText (i : Int) : String :=
  if i < 0 then "-" ++ natText i.natAbs else natText i.natAbs

end DeviceGateway.Text
