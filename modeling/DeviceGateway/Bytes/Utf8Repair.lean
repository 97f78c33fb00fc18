import DeviceGateway.Bytes.Utf8

/-!
# Texts of arbitrary octets

Octets that are no UTF-8 are read with a replacement character in the place of each run that could
have begun a character.
-/

namespace DeviceGateway.Utf8

def isTail (b : UInt8) : Bool := 0x80 ≤ b && b ≤ 0xBF

/-- Whether two octets can begin a character of three or four. -/
def mayFollow (a b : UInt8) : Bool :=
  if a == 0xE0 then 0xA0 ≤ b && b ≤ 0xBF
  else if a == 0xED then 0x80 ≤ b && b ≤ 0x9F
  else if 0xE1 ≤ a && a ≤ 0xEF then isTail b
  else if a == 0xF0 then 0x90 ≤ b && b ≤ 0xBF
  else if 0xF1 ≤ a && a ≤ 0xF3 then isTail b
  else if a == 0xF4 then 0x80 ≤ b && b ≤ 0x8F
  else false

/-- The length of the longest run at the front that could have begun a character. -/
def brokenLength : Bytes → Nat
  | a :: b :: c :: _ => if mayFollow a b then (if 0xF0 ≤ a ∧ isTail c then 3 else 2) else 1
  | [a, b] => if mayFollow a b then 2 else 1
  | _ => 1

/-- The character at the front and its length, if there is one. -/
def firstChar? (bs : Bytes) : Option (Char × Nat) :=
  [1, 2, 3, 4].findSome? fun n =>
    match decode? (bs.take n) with
    | some [c] => if n ≤ bs.length then some (c, n) else none
    | _ => none

def repairSteps : Nat → Bytes → List Char
  | 0, _ => []
  | _, [] => []
  | fuel + 1, bs =>
    match firstChar? bs with
    | some (c, n) => c :: repairSteps fuel (bs.drop n)
    | none => '\ufffd' :: repairSteps fuel (bs.drop (brokenLength bs))

def repair (bs : Bytes) : String := String.ofList (repairSteps bs.length bs)

end DeviceGateway.Utf8
