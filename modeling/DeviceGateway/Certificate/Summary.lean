import DeviceGateway.Certificate.Record
import DeviceGateway.Text.Numeral

/-!
# What a certificate says

A certificate in words: its names as dotted types with texts, its usages, its purposes and the
host names it is for.
-/

namespace DeviceGateway

namespace Der

/-- The arcs of an object identifier; `acc` holds the digits of the present one so far. -/
def arcsFrom (acc : Nat) : Bytes → List Nat
  | [] => []
  | b :: rest =>
    let n := acc * 128 + b.toNat % 128
    if b.toNat < 128 then n :: arcsFrom 0 rest else arcsFrom n rest

/-- The dotted form of an object identifier; the first octets hold two arcs. -/
def dottedId (id : Bytes) : String :=
  let arcs := match arcsFrom 0 id with
    | [] => []
    | a :: rest => if a < 80 then a / 40 :: a % 40 :: rest else 2 :: (a - 80) :: rest
  ".".intercalate (arcs.map Text.natText)

end Der

namespace Certificate

def KeyUsage.name : KeyUsage → String
  | digitalSignature => "Digital Signature"
  | keyCertSign => "Key Cert Sign"
  | crlSign => "CRL Sign"

/-- The purpose that stands for all, 2.5.29.37.0. -/
def anyPurpose : Bytes := [0x55, 0x1D, 0x25, 0x00]

def attributeTexts (content : Bytes) : List (String × String) :=
  match readName (Der.writeSequence content) with
  | none => []
  | some (name, _) => name.flatten.map fun a =>
    (Der.dottedId a.type, (Utf8.decodeText? a.value.content).getD "")

namespace Record

def usages? (r : Record) : Option (List KeyUsage) :=
  (r.extension? Extension.keyUsageType).map fun _ =>
    [.digitalSignature, .keyCertSign, .crlSign].filter (r.allows ·)

def dnsNames? (r : Record) : Option (List String) := do
  let content ← r.extension? Extension.alternativeNamesType
  let (inner, _) ← Der.readSequence content
  (← Der.readAll inner.length inner).mapM fun x => Utf8.decodeText? x.1.content

end Record
end Certificate
end DeviceGateway
