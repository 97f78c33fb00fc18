import DeviceGateway.Bytes.Base64

/-!
# Bodies of sections

The body of a section is base64 with spacing anywhere. Padding may be left out at the end; it is
refused in the middle, and where it leaves no whole number of octets.
-/

namespace DeviceGateway.Pem

inductive BodyFault where
  | invalidCharacter (octet : UInt8)
  | prematurePadding
  | invalidTrailingPadding
  deriving DecidableEq, Repr

def BodyFault.message : BodyFault → String
  | .invalidCharacter b => "InvalidCharacter(" ++ toString b.toNat ++ ")"
  | .prematurePadding => "PrematurePadding"
  | .invalidTrailingPadding => "InvalidTrailingPadding"

/-- A digit of six bits, or padding. -/
inductive Symbol where
  | digit (value : Nat)
  | pad
  deriving DecidableEq, Repr

def isSpacing (b : UInt8) : Bool := b == 0x20 || (9 ≤ b && b ≤ 13)

def readSymbols : Bytes → Except BodyFault (List Symbol)
  | [] => .ok []
  | b :: rest =>
    if isSpacing b then readSymbols rest
    else if b = 0x3D then (readSymbols rest).map (.pad :: ·)
    else
      match if b < 0x80 then Base64.value? (Char.ofNat b.toNat) else none with
      | some v => (readSymbols rest).map (.digit v :: ·)
      | none => .error (.invalidCharacter b)

/-- The value of a symbol; padding counts as zero. -/
def Symbol.value : Symbol → Nat
  | digit v => v
  | pad => 0

def octetsOf (symbols : List Symbol) : Bytes :=
  let n := (symbols ++ List.replicate (8 - symbols.length) Symbol.pad).foldl
    (fun (acc : Nat) (s : Symbol) => acc * 64 + s.value) 0
  [40, 32, 24, 16, 8, 0].map fun shift => UInt8.ofNat (n >>> shift)

/-- The number of octets in eight symbols: padding stands at the end and is at most two. -/
def wholeLength? (symbols : List Symbol) : Option Nat :=
  let padding := symbols.map (· == .pad)
  if padding == List.replicate 8 false then some 6
  else if padding == List.replicate 7 false ++ [true] then some 5
  else if padding == List.replicate 6 false ++ [true, true] then some 4
  else none

/-- The number of octets in fewer than eight symbols at the end. -/
def partLength? (symbols : List Symbol) : Option Nat :=
  let padding := symbols.map (· == .pad)
  if padding.all (!·) then
    match symbols.length with
    | 0 => some 0
    | 2 => some 1
    | 3 => some 2
    | 4 => some 3
    | 6 => some 4
    | 7 => some 5
    | _ => none
  else if padding == [false, false, false, true] then some 2
  else if padding == [false, false, true, true] then some 1
  else none

def decodeSymbols : Nat → List Symbol → Except BodyFault Bytes
  | 0, _ => .ok []
  | fuel + 1, symbols =>
    if symbols.length < 8 then
      match partLength? symbols with
      | some n => .ok ((octetsOf symbols).take n)
      | none => .error .invalidTrailingPadding
    else
      let block := symbols.take 8
      let rest := symbols.drop 8
      match wholeLength? block with
      | none => .error .prematurePadding
      | some n =>
        if n < 6 ∧ !rest.isEmpty then .error .prematurePadding
        else (decodeSymbols fuel rest).map ((octetsOf block).take n ++ ·)

def decodeBody (body : Bytes) : Except BodyFault Bytes := do
  let symbols ← readSymbols body
  decodeSymbols (symbols.length + 1) symbols

end DeviceGateway.Pem
