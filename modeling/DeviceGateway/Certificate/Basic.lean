import DeviceGateway.Certificate.Extension
import DeviceGateway.Certificate.Subject
import DeviceGateway.Certificate.Timestamp

/-!
# Certificates

The signed fields of a certificate, and the certificate with its signature, with their encodings.
-/

namespace DeviceGateway

namespace Certificate

/-- An algorithm and its parameters, an encoded element or nothing. -/
structure Algorithm where
  id : Bytes
  parameters : Bytes := []
  deriving DecidableEq, Repr

def Algorithm.content (a : Algorithm) : Bytes := Der.writeObjectId a.id ++ a.parameters

def Algorithm.encode (a : Algorithm) : Bytes := Der.writeSequence a.content

structure KeyInfo where
  algorithm : Algorithm
  key : Der.BitString
  deriving DecidableEq, Repr

def KeyInfo.encode (k : KeyInfo) : Bytes :=
  Der.writeSequence (k.algorithm.encode ++ Der.writeBitString k.key)

/-- The fields of a certificate that are signed; version 0 is left out of the encoding. -/
structure Fields where
  version : Nat := 2
  serial : Bytes
  algorithm : Algorithm
  issuer : Name
  notBefore : Calendar.Instant
  notAfter : Calendar.Instant
  subject : Name
  publicKey : KeyInfo
  issuerId : Option Der.BitString := none
  subjectId : Option Der.BitString := none
  extensions : List Extension := []
  deriving DecidableEq, Repr

def encodeUniqueId (tag : Nat) : Option Der.BitString → Bytes
  | none => []
  | some id => Der.Element.encode ⟨2, false, tag, id.content⟩

/-- The encoding of the extensions; none are left out. -/
def encodeExtensions : List Extension → Bytes
  | [] => []
  | xs => Der.writeTagged 3 (Der.writeSequence (xs.flatMap Extension.encode))

def Fields.encode (f : Fields) : Bytes :=
  Der.writeSequence (
    (if f.version = 0 then [] else Der.writeTagged 0 (Der.writeNatural f.version))
    ++ Der.writePrimitive Der.integer f.serial
    ++ f.algorithm.encode
    ++ encodeName f.issuer
    ++ encodeValidity f.notBefore f.notAfter
    ++ encodeName f.subject
    ++ f.publicKey.encode
    ++ encodeUniqueId 1 f.issuerId
    ++ encodeUniqueId 2 f.subjectId
    ++ encodeExtensions f.extensions)

end Certificate

structure Certificate where
  fields : Certificate.Fields
  algorithm : Certificate.Algorithm
  signature : Der.BitString
  deriving DecidableEq, Repr

def Certificate.encode (c : Certificate) : Bytes :=
  Der.writeSequence (c.fields.encode ++ c.algorithm.encode ++ Der.writeBitString c.signature)

end DeviceGateway
