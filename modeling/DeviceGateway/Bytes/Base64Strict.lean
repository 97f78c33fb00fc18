import DeviceGateway.Bytes.Base64
import DeviceGateway.Text.Numeral

/-!
# Exact base64

Base64 without any leniency: padding to whole groups of four, no surplus bits. A fault says where it
was met.
-/

namespace DeviceGateway.Base64

inductive Problem where
  | symbol (octet : UInt8) (offset : Nat)
  | lastSymbol (octet : UInt8) (offset : Nat)
  | length (length : Nat)
  | padding
  deriving DecidableEq, Repr

def Problem.message : Problem → String
  | .symbol b n => "Invalid symbol " ++ Text.natText b.toNat ++ ", offset " ++ Text.natText n ++ "."
  | .lastSymbol b n =>
    "Invalid last symbol " ++ Text.natText b.toNat ++ ", offset " ++ Text.natText n ++ "."
  | .length n => "Invalid input length: " ++ Text.natText n
  | .padding => "Invalid padding"

def padOctet : UInt8 := 0x3D

def octetValue? (b : UInt8) : Option Nat :=
  if b < 0x80 then value? (Char.ofNat b.toNat) else none

/-- The values of digits from an offset on; there is no padding among them. -/
def readDigits (offset : Nat) : Bytes → Except Problem (List Nat)
  | [] => .ok []
  | b :: rest =>
    match octetValue? b with
    | none => .error (.symbol b offset)
    | some v => (readDigits (offset + 1) rest).map (v :: ·)

def groupOctets : List Nat → Bytes
  | a :: b :: c :: d :: rest =>
    let n := ((a * 64 + b) * 64 + c) * 64 + d
    [UInt8.ofNat (n / 65536), UInt8.ofNat (n / 256), UInt8.ofNat n] ++ groupOctets rest
  | _ => []

/-- The octets of the last group: two to four digits, then padding up to four. -/
def lastOctets (offset : Nat) (group : Bytes) : Except Problem Bytes := do
  let digits := group.takeWhile (· != padOctet)
  let rest := group.drop digits.length
  let values ← readDigits offset digits
  if digits.length < 2 then
    match rest with
    | [] => if group.isEmpty then .ok [] else .error (.length (offset + digits.length))
    | b :: _ => .error (.symbol b (offset + digits.length))
  else if rest.any (· != padOctet) then .error (.symbol padOctet (offset + digits.length))
  else if group.length ≠ 4 then .error .padding
  else
    let unused := if values.length = 2 then 16 else if values.length = 3 then 4 else 1
    let surplus := values.getLastD 0 % unused
    if surplus ≠ 0 then
      .error (.lastSymbol (digits.getLastD 0) (offset + digits.length - 1))
    else
      .ok ((groupOctets (values ++ List.replicate (4 - values.length) 0)).take (values.length - 1))

def decodeStrict (text : Bytes) : Except Problem Bytes :=
  let surplus := text.length % 4
  let last := text.getLastD 0
  if surplus = 1 ∧ last ≠ padOctet ∧ octetValue? last = none then
    .error (.symbol last (text.length - 1))
  else
    let whole := text.length - (if surplus = 0 then 4 else surplus)
    do
      let values ← readDigits 0 (text.take whole)
      let tail ← lastOctets whole (text.drop whole)
      .ok (groupOctets values ++ tail)

end DeviceGateway.Base64
