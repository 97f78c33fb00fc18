import DeviceGateway.Bytes.Utf8

/-!
# Percent coding

Octets outside a permitted set are written as a percent sign and two upper-case hex digits; a
percent sign without two digits stands for itself.
-/

namespace DeviceGateway.Url

def percentOctet (b : UInt8) : List Char :=
  ['%', Bytes.hexDigitUpper (b.toNat / 16), Bytes.hexDigitUpper (b.toNat % 16)]

/-- A character, its octets escaped if it is no visible ASCII character or `escaped` names it. -/
def percentEncodeChar (escaped : Char → Bool) (c : Char) : List Char :=
  if c.toNat ≤ 0x20 ∨ 0x7E < c.toNat ∨ escaped c then (Utf8.encodeChar c).flatMap percentOctet
  else [c]

def percentEncode (escaped : Char → Bool) (cs : List Char) : List Char :=
  cs.flatMap (percentEncodeChar escaped)

/-- The octets of a text with escapes resolved. -/
def percentDecode : List Char → Bytes
  | [] => []
  | '%' :: a :: b :: rest =>
    match Bytes.hexValue? a, Bytes.hexValue? b with
    | some hi, some lo => UInt8.ofNat (hi * 16 + lo) :: percentDecode rest
    | _, _ => 0x25 :: percentDecode (a :: b :: rest)
  | c :: rest => Utf8.encodeChar c ++ percentDecode rest
  termination_by cs => cs.length

end DeviceGateway.Url
