import DeviceGateway.Bytes.Utf8
import DeviceGateway.Json.Problem

/-!
# Tokens of JSON text

Readers for blanks, words, numbers and strings over octets. Each takes what is left of the input
and returns the token with what is left after it, or a problem with its place.
-/

namespace DeviceGateway.Json

/-- A problem at the end of what was consumed. -/
def failConsumed {α : Type} (fault : Fault) (rest : Bytes) : Except Problem α :=
  .error ⟨fault, .consumed rest.length⟩

def failPeeked {α : Type} (fault : Fault) (rest : Bytes) : Except Problem α :=
  .error ⟨fault, .peeked rest.length⟩

def isBlankOctet (b : UInt8) : Bool := b == 0x20 || b == 0x0A || b == 0x09 || b == 0x0D

def skipBlanks (bs : Bytes) : Bytes := bs.dropWhile isBlankOctet

/-- The rest of a word whose first letter is consumed. -/
def readWord : Bytes → Bytes → Except Problem Bytes
  | [], rest => .ok rest
  | _ :: _, [] => failConsumed .endOfValue []
  | e :: es, b :: rest => if b = e then readWord es rest else failConsumed .expectedIdent rest

/-! ### Numbers -/

inductive Number where
  | unsigned (n : Nat)
  | signed (i : Int)
  | float (x : Binary64)
  deriving DecidableEq, Repr

def isDigit (b : UInt8) : Bool := 0x30 ≤ b && b ≤ 0x39

def digitValue (b : UInt8) : Nat := b.toNat - 48

/-- The first value past the unsigned range. -/
def unsignedLimit : Nat := 18446744073709551616

/-- `significand * 10 ^ exponent` in steps of at most 308 places, each step rounded. -/
def scaleDecimal (rest : Bytes) : Nat → Binary64 → Int → Except Problem Binary64
  | 0, x, _ => .ok x
  | fuel + 1, x, e =>
    if e.natAbs ≤ 308 then
      if e ≥ 0 then
        let y := x.mul (Binary64.ofDecimal false 1 e)
        if y.isInfinite then failConsumed .numberOutOfRange rest else .ok y
      else .ok (x.div (Binary64.ofDecimal false 1 (-e)))
    else if x.isZero then .ok x
    else if e ≥ 0 then failConsumed .numberOutOfRange rest
    else scaleDecimal rest fuel (x.div (Binary64.ofDecimal false 1 308)) (e + 308)

/-- The number of a significand and a decimal exponent. -/
def finishFloat (positive : Bool) (significand : Nat) (e : Int) (rest : Bytes) :
    Except Problem (Number × Bytes) := do
  let x ← scaleDecimal rest 8 (Binary64.ofRatio false significand 1) e
  .ok (.float (x.withSign (!positive)), rest)

def exponentLimit : Nat := 2147483648

def readExponentDigits (positive : Bool) (significand : Nat) (start : Int) (up : Bool) :
    Nat → Bytes → Except Problem (Number × Bytes)
  | e, [] => finishFloat positive significand (if up then start + e else start - e) []
  | e, b :: rest =>
    if isDigit b then
      if e * 10 + digitValue b ≥ exponentLimit then
        if significand ≠ 0 ∧ up then failConsumed .numberOutOfRange rest
        else .ok (.float (.finite (!positive) 0 (-1074)), rest.dropWhile isDigit)
      else readExponentDigits positive significand start up (e * 10 + digitValue b) rest
    else finishFloat positive significand (if up then start + e else start - e) (b :: rest)

def readExponent (positive : Bool) (significand : Nat) (start : Int) (bs : Bytes) :
    Except Problem (Number × Bytes) :=
  let (up, bs) := match bs with
    | 0x2B :: rest => (true, rest)
    | 0x2D :: rest => (false, rest)
    | rest => (true, rest)
  match bs with
  | [] => failConsumed .endOfValue []
  | b :: rest =>
    if isDigit b then readExponentDigits positive significand start up (digitValue b) rest
    else failConsumed .invalidNumber rest

def readExponentOrEnd (positive : Bool) (significand : Nat) (e : Int) (bs : Bytes) :
    Except Problem (Number × Bytes) :=
  match bs with
  | 0x65 :: rest => readExponent positive significand e rest
  | 0x45 :: rest => readExponent positive significand e rest
  | rest => finishFloat positive significand e rest

/-- The decimal places after the point; `places` of them are in the significand already. -/
def readPlaces (positive : Bool) (start : Int) : Nat → Nat → Bytes → Except Problem (Number × Bytes)
  | significand, places, [] =>
    if places = 0 then failPeeked .endOfValue []
    else finishFloat positive significand (start - places) []
  | significand, places, b :: rest =>
    if isDigit b then
      if significand * 10 + digitValue b ≥ unsignedLimit then
        readExponentOrEnd positive significand (start - places) (rest.dropWhile isDigit)
      else readPlaces positive start (significand * 10 + digitValue b) (places + 1) rest
    else if places = 0 then failPeeked .invalidNumber (b :: rest)
    else readExponentOrEnd positive significand (start - places) (b :: rest)

def readFraction (positive : Bool) (significand : Nat) (bs : Bytes) :
    Except Problem (Number × Bytes) :=
  match bs with
  | 0x2E :: rest => readPlaces positive 0 significand 0 rest
  | 0x65 :: rest => readExponent positive significand 0 rest
  | 0x45 :: rest => readExponent positive significand 0 rest
  | rest =>
    if positive then .ok (.unsigned significand, rest)
    else if significand = 0 ∨ significand > 9223372036854775808 then
      .ok (.float ((Binary64.ofRatio true significand 1)), rest)
    else .ok (.signed (-(significand : Int)), rest)

/-- A whole part past the unsigned range: further digits only count. -/
def readLong (positive : Bool) (significand : Nat) : Nat → Bytes → Except Problem (Number × Bytes)
  | e, [] => finishFloat positive significand e []
  | e, b :: rest =>
    if isDigit b then readLong positive significand (e + 1) rest
    else if b = 0x2E then readPlaces positive e significand 0 rest
    else readExponentOrEnd positive significand e (b :: rest)

def readWhole (positive : Bool) : Nat → Bytes → Except Problem (Number × Bytes)
  | significand, [] => readFraction positive significand []
  | significand, b :: rest =>
    if isDigit b then
      if significand * 10 + digitValue b ≥ unsignedLimit then
        readLong positive significand 0 (b :: rest)
      else readWhole positive (significand * 10 + digitValue b) rest
    else readFraction positive significand (b :: rest)

def readNumber (positive : Bool) : Bytes → Except Problem (Number × Bytes)
  | [] => failConsumed .endOfValue []
  | b :: rest =>
    if b = 0x30 then
      match rest with
      | [] => readFraction positive 0 []
      | d :: rest =>
        if isDigit d then failPeeked .invalidNumber (d :: rest)
        else readFraction positive 0 (d :: rest)
    else if isDigit b then readWhole positive (digitValue b) rest
    else failConsumed .invalidNumber rest

/-! ### Strings -/

def hex4? (a b c d : UInt8) : Option Nat := do
  let digit := fun (b : UInt8) => Bytes.hexValue? (Char.ofNat b.toNat)
  some ((((← digit a) * 16 + (← digit b)) * 16 + (← digit c)) * 16 + (← digit d))

def simpleEscape? (b : UInt8) : Option UInt8 :=
  if b = 0x22 ∨ b = 0x5C ∨ b = 0x2F then some b
  else if b = 0x62 then some 0x08
  else if b = 0x66 then some 0x0C
  else if b = 0x6E then some 0x0A
  else if b = 0x72 then some 0x0D
  else if b = 0x74 then some 0x09
  else none

/-- The content of a string after its opening quote; `acc` holds the octets so far, latest
first. -/
def readStringFrom (acc : Bytes) : Bytes → Except Problem (Bytes × Bytes)
  | [] => failConsumed .endOfString []
  | b :: rest =>
    if b = 0x22 then .ok (acc.reverse, rest)
    else if b = 0x5C then
      match rest with
      | [] => failConsumed .endOfString []
      | e :: rest =>
        if e = 0x75 then
          match rest with
          | h1 :: h2 :: h3 :: h4 :: rest =>
            match hex4? h1 h2 h3 h4 with
            | none => failConsumed .invalidEscape rest
            | some n =>
              if 0xDC00 ≤ n ∧ n ≤ 0xDFFF then failConsumed .loneSurrogate rest
              else if n < 0xD800 ∨ 0xDBFF < n then
                readStringFrom ((Utf8.encodeChar (Char.ofNat n)).reverse ++ acc) rest
              else
                match rest with
                | [] => failConsumed .endOfString []
                | s :: rest =>
                  if s ≠ 0x5C then failConsumed .endOfHexEscape rest
                  else match rest with
                    | [] => failConsumed .endOfString []
                    | u :: rest =>
                      if u ≠ 0x75 then failConsumed .endOfHexEscape rest
                      else match rest with
                        | l1 :: l2 :: l3 :: l4 :: rest =>
                          match hex4? l1 l2 l3 l4 with
                          | none => failConsumed .invalidEscape rest
                          | some m =>
                            if m < 0xDC00 ∨ 0xDFFF < m then failConsumed .loneSurrogate rest
                            else
                              let v := (n - 0xD800) * 1024 + (m - 0xDC00) + 0x10000
                              readStringFrom ((Utf8.encodeChar (Char.ofNat v)).reverse ++ acc) rest
                        | _ => failConsumed .endOfString []
          | _ => failConsumed .endOfString []
        else
          match simpleEscape? e with
          | some c => readStringFrom (c :: acc) rest
          | none => failConsumed .invalidEscape rest
    else if b < 0x20 then failConsumed .controlCharacter rest
    else readStringFrom (b :: acc) rest

/-- A string after its opening quote, as text. -/
def readString (bs : Bytes) : Except Problem (String × Bytes) := do
  let (content, rest) ← readStringFrom [] bs
  match Utf8.decodeText? content with
  | some s => .ok (s, rest)
  | none => failConsumed .invalidCodePoint rest

end DeviceGateway.Json
