/-!
# Octet strings and their hexadecimal text

`Bytes` is the type of certificate material, digests and file contents. Hex text is written in
either letter case and read in both; reading what was written gives the octets back.
-/

namespace DeviceGateway

abbrev Bytes := List UInt8

namespace Bytes

/-! ### Writing -/

/-- The `n`-th hex digit, `n < 16`, with letters from `a` on. -/
def hexDigitLower (n : Nat) : Char :=
  if n < 10 then Char.ofNat (48 + n) else Char.ofNat (87 + n)

/-- The `n`-th hex digit, `n < 16`, with letters from `A` on. -/
def hexDigitUpper (n : Nat) : Char :=
  if n < 10 then Char.ofNat (48 + n) else Char.ofNat (55 + n)

/-- Two digits for each octet, high half first. -/
def hexChars (digit : Nat → Char) : Bytes → List Char
  | [] => []
  | b :: rest => digit (b.toNat / 16) :: digit (b.toNat % 16) :: hexChars digit rest

def toHex (bs : Bytes) : String := String.ofList (hexChars hexDigitLower bs)

def toHexUpper (bs : Bytes) : String := String.ofList (hexChars hexDigitUpper bs)

/-! ### Reading -/

def hexValue? (c : Char) : Option Nat :=
  if '0' ≤ c ∧ c ≤ '9' then some (c.toNat - 48)
  else if 'a' ≤ c ∧ c ≤ 'f' then some (c.toNat - 87)
  else if 'A' ≤ c ∧ c ≤ 'F' then some (c.toNat - 55)
  else none

/-- Pairs of hex digits as octets; an odd digit or any other character refuses the text. -/
def ofHexChars? : List Char → Option Bytes
  | [] => some []
  | [_] => none
  | a :: b :: rest => do
    let hi ← hexValue? a
    let lo ← hexValue? b
    let bytes ← ofHexChars? rest
    some (UInt8.ofNat (hi * 16 + lo) :: bytes)

def ofHex? (s : String) : Option Bytes := ofHexChars? s.toList

theorem hexValue?_hexDigitLower : ∀ n, n < 16 → hexValue? (hexDigitLower n) = some n := by
  decide

theorem hexValue?_hexDigitUpper : ∀ n, n < 16 → hexValue? (hexDigitUpper n) = some n := by
  decide

theorem ofHexChars?_hexChars {digit : Nat → Char}
    (h : ∀ n, n < 16 → hexValue? (digit n) = some n) (bs : Bytes) :
    ofHexChars? (hexChars digit bs) = some bs := by
  induction bs with
  | nil => rfl
  | cons b rest ih =>
    have hb := b.toNat_lt
    simp only [hexChars, ofHexChars?, h (b.toNat / 16) (by omega), h (b.toNat % 16) (by omega), ih]
    simp only [Option.bind_eq_bind, Option.bind_some, Option.some.injEq, List.cons.injEq, and_true]
    rw [show b.toNat / 16 * 16 + b.toNat % 16 = b.toNat by omega]
    exact UInt8.ofNat_toNat

theorem ofHex?_toHex (bs : Bytes) : ofHex? (toHex bs) = some bs := by
  simp only [ofHex?, toHex, String.toList_ofList]
  exact ofHexChars?_hexChars hexValue?_hexDigitLower bs

theorem ofHex?_toHexUpper (bs : Bytes) : ofHex? (toHexUpper bs) = some bs := by
  simp only [ofHex?, toHexUpper, String.toList_ofList]
  exact ofHexChars?_hexChars hexValue?_hexDigitUpper bs

end Bytes
end DeviceGateway
