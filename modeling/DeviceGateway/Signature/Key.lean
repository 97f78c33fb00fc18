import DeviceGateway.Certificate.Basic
import DeviceGateway.Signature.Curve
import DeviceGateway.Signature.Edwards
import DeviceGateway.Signature.Rsa

/-!
# Signing keys

Keys of the three families: what they sign with, their public halves, and the checks of signatures
made with them.
-/

namespace DeviceGateway

open Certificate (Algorithm KeyInfo)

inductive NamedCurve where
  | p256
  | p384
  | p521
  deriving DecidableEq, Repr

def NamedCurve.curve : NamedCurve → Curve
  | p256 => .p256
  | p384 => .p384
  | p521 => .p521

def NamedCurve.all : List NamedCurve := [p256, p384, p521]

inductive SigningKey where
  | curve (name : NamedCurve) (secret : Nat)
  | edwards (seed : Bytes)
  | rsa (key : Rsa.Key)
  deriving DecidableEq, Repr

/-! ### Algorithms -/

/-- The encoding of no parameters at all. -/
def nullParameters : Bytes := Der.writePrimitive 5 []

/-- Keys of curves, 1.2.840.10045.2.1; the parameter is the curve. -/
def curveKeyAlgorithm (name : NamedCurve) : Algorithm :=
  ⟨[0x2A, 0x86, 0x48, 0xCE, 0x3D, 0x02, 0x01], Der.writeObjectId name.curve.id⟩

/-- Keys and signatures of the twisted Edwards curve, 1.3.101.112. -/
def edwardsAlgorithm : Algorithm := ⟨[0x2B, 0x65, 0x70], []⟩

/-- RSA keys, 1.2.840.113549.1.1.1. -/
def rsaKeyAlgorithm : Algorithm :=
  ⟨[0x2A, 0x86, 0x48, 0x86, 0xF7, 0x0D, 0x01, 0x01, 0x01], nullParameters⟩

/-- RSA signatures over SHA-256, 1.2.840.113549.1.1.11. -/
def rsaSignatureAlgorithm : Algorithm :=
  ⟨[0x2A, 0x86, 0x48, 0x86, 0xF7, 0x0D, 0x01, 0x01, 0x0B], nullParameters⟩

def curveSignatureAlgorithm (name : NamedCurve) : Algorithm := ⟨name.curve.signatureId, []⟩

namespace SigningKey

def algorithm : SigningKey → Algorithm
  | curve name _ => curveSignatureAlgorithm name
  | edwards _ => edwardsAlgorithm
  | rsa _ => rsaSignatureAlgorithm

def publicKey : SigningKey → KeyInfo
  | curve name secret => ⟨curveKeyAlgorithm name, name.curve.publicKey secret⟩
  | edwards seed => ⟨edwardsAlgorithm, Edwards.publicKey seed⟩
  | rsa key => ⟨rsaKeyAlgorithm, key.publicKey⟩

def sign : SigningKey → Bytes → Bytes
  | curve name secret, message => name.curve.sign secret message
  | edwards seed, message => Edwards.sign seed message
  | rsa key, message => key.sign message

/-- A key of the first curve from octets that nobody can guess. -/
def generate (entropy : Bytes) : SigningKey :=
  .curve .p256 (Der.ofBigEndian entropy % (Curve.p256.order - 1) + 1)

end SigningKey

/-! ### Checking -/

/-- Whether a message has a signature of the owner of an encoded public key, made with the algorithm
whose encoded content is given. -/
def isSignedBy (publicKey algorithm message signature : Bytes) : Bool :=
  match Der.readTagged Der.sequence publicKey with
  | some (info, _) =>
    match Der.readTagged Der.sequence info.content with
    | some (keyAlgorithm, rest) =>
      match Der.readPrimitive Der.bitString rest with
      | some (0 :: key, _) =>
        let isFor := fun (k s : Algorithm) =>
          Der.writeSequence keyAlgorithm.content == k.encode
            && Der.writeSequence algorithm == s.encode
        if isFor edwardsAlgorithm edwardsAlgorithm then Edwards.verify key message signature
        else if isFor rsaKeyAlgorithm rsaSignatureAlgorithm then Rsa.verify key message signature
        else NamedCurve.all.any fun keyCurve => NamedCurve.all.any fun digestCurve =>
          isFor (curveKeyAlgorithm keyCurve) (curveSignatureAlgorithm digestCurve)
            && keyCurve.curve.verify digestCurve.curve.digest key message signature
      | _ => false
    | none => false
  | none => false

end DeviceGateway
