import DeviceGateway.Bytes.Utf8
import DeviceGateway.Der.Element

/-!
# Extensions of certificates

An extension has a type, a mark whether it is critical, and a content. Those that the gateway
issues or checks have types of their own here.
-/

namespace DeviceGateway.Certificate

structure Extension where
  type : Bytes
  critical : Bool
  content : Bytes
  deriving DecidableEq, Repr

namespace Extension

/-- The encoding of an extension; a mark that is not set is left out. -/
def encode (x : Extension) : Bytes :=
  Der.writeSequence (Der.writeObjectId x.type
    ++ (if x.critical then Der.writePrimitive Der.boolean [0xFF] else [])
    ++ Der.writeOctetString x.content)

/-! ### Types -/

/-- The subject key identifier, 2.5.29.14. -/
def keyIdentifierType : Bytes := [0x55, 0x1D, 0x0E]

/-- The key usages, 2.5.29.15. -/
def keyUsageType : Bytes := [0x55, 0x1D, 0x0F]

/-- The alternative names of the subject, 2.5.29.17. -/
def alternativeNamesType : Bytes := [0x55, 0x1D, 0x11]

/-- The basic constraints, 2.5.29.19. -/
def basicConstraintsType : Bytes := [0x55, 0x1D, 0x13]

/-- The extended key usages, 2.5.29.37. -/
def purposesType : Bytes := [0x55, 0x1D, 0x25]

end Extension

inductive KeyUsage where
  | digitalSignature
  | keyCertSign
  | crlSign
  deriving DecidableEq, Repr

/-- The place of a usage in the bit string. -/
def KeyUsage.bit : KeyUsage → Nat
  | digitalSignature => 0
  | keyCertSign => 5
  | crlSign => 6

inductive Purpose where
  | serverAuth
  | clientAuth
  deriving DecidableEq, Repr

/-- The type of a purpose, below 1.3.6.1.5.5.7.3. -/
def Purpose.id : Purpose → Bytes
  | serverAuth => [0x2B, 0x06, 0x01, 0x05, 0x05, 0x07, 0x03, 0x01]
  | clientAuth => [0x2B, 0x06, 0x01, 0x05, 0x05, 0x07, 0x03, 0x02]

namespace Extension

/-! ### Building -/

/-- The octet of the key usages; the first place is the highest bit. -/
def usageOctet (usages : List KeyUsage) : Nat :=
  (List.range 8).foldl (fun acc n =>
    acc * 2 + if usages.any (·.bit == n) then 1 else 0) 0

/-- The number of zero bits below the lowest set bit. -/
def unusedBits (octet : Nat) : Nat :=
  ((List.range 8).takeWhile fun n => octet / Nat.pow 2 n % 2 = 0).length

def keyUsages (usages : List KeyUsage) : Extension :=
  let octet := usageOctet usages
  ⟨keyUsageType, true,
    Der.writePrimitive Der.bitString [UInt8.ofNat (unusedBits octet), UInt8.ofNat octet]⟩

def purposes (ps : List Purpose) : Extension :=
  ⟨purposesType, false, Der.writeSequence (ps.flatMap fun p => Der.writeObjectId p.id)⟩

def dnsNames (names : List String) : Extension :=
  ⟨alternativeNamesType, false, Der.writeSequence (names.flatMap fun n =>
    Der.Element.encode ⟨2, false, 2, Utf8.encodeText n⟩)⟩

/-- The mark of an authority whose chains may have any length. -/
def authority : Extension :=
  ⟨basicConstraintsType, true, Der.writeSequence (Der.writePrimitive Der.boolean [0xFF])⟩

def keyIdentifier (id : Bytes) : Extension := ⟨keyIdentifierType, false, Der.writeOctetString id⟩

end Extension
end DeviceGateway.Certificate
