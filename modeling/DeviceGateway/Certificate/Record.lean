import DeviceGateway.Certificate.Basic
import DeviceGateway.Certificate.Reader

/-!
# Certificates as chain validation sees them

The exact reader of certificates: shortest lengths, no surplus octets, version 3, and the same
algorithm twice. Names and keys are kept as they are written, for they are compared octet by octet.
-/

namespace DeviceGateway

namespace Der

/-- The next element if it is written in its shortest form, with its own octets and what follows
it. -/
def readShortest (bs : Bytes) : Option (Element × Bytes × Bytes) := do
  let (e, rest) ← readElement bs
  let raw := e.encode
  if e.number < 31 ∧ raw.length + rest.length = bs.length then some (e, raw, rest) else none

/-- The next element, of a universal type. -/
def readUniversal (number : Nat) (constructed : Bool) (bs : Bytes) :
    Option (Bytes × Bytes × Bytes) := do
  let (e, raw, rest) ← readShortest bs
  if e.tagClass = 0 ∧ e.number = number ∧ e.constructed = constructed then
    some (e.content, raw, rest)
  else none

def readSequence (bs : Bytes) : Option (Bytes × Bytes) := do
  let (content, _, rest) ← readUniversal sequence true bs
  some (content, rest)

/-- The elements that octets are made of; `fuel` bounds their number. -/
def readAll : Nat → Bytes → Option (List (Element × Bytes))
  | _, [] => some []
  | 0, _ => none
  | fuel + 1, bs => do
    let (e, raw, rest) ← readShortest bs
    let more ← readAll fuel rest
    some ((e, raw) :: more)

/-- The octets of a bit string without unused bits. -/
def readOctetBits (bs : Bytes) : Option (Bytes × Bytes) := do
  let (content, _, rest) ← readUniversal bitString false bs
  match content with
  | 0 :: octets => some (octets, rest)
  | _ => none

end Der

namespace Certificate

structure Record where
  signed : Bytes
  serial : Bytes
  issuer : Bytes
  notBefore : Calendar.Instant
  notAfter : Calendar.Instant
  subject : Bytes
  publicKey : Bytes
  extensions : List Extension
  algorithm : Bytes
  signature : Bytes
  deriving DecidableEq, Repr

namespace Record

def readExtension (content : Bytes) : Option Extension := do
  let (type, _, rest) ← Der.readUniversal Der.objectId false content
  let (e, raw, after) ← Der.readShortest rest
  let (critical, value) ←
    if e.tagClass = 0 ∧ e.number = Der.boolean then
      if e.content = [0xFF] then some (true, after)
      else if e.content = [0] then some (false, after) else none
    else some (false, raw ++ after)
  let (octets, _, rest) ← Der.readUniversal Der.octetString false value
  if rest.isEmpty then some ⟨type, critical, octets⟩ else none

/-- The extensions at the end of the signed fields, if there are any. -/
def readExtensions (bs : Bytes) : Option (List Extension) :=
  if bs.isEmpty then some []
  else do
    let (e, _, rest) ← Der.readShortest bs
    if e.tagClass ≠ 2 ∨ e.number ≠ 3 ∨ !rest.isEmpty then none
    else
      let (content, after) ← Der.readSequence e.content
      if !after.isEmpty then none
      else (← Der.readAll content.length content).mapM fun x =>
        if x.1.tagClass = 0 ∧ x.1.number = Der.sequence then readExtension x.1.content else none

/-- What follows the version, which must be the third. -/
def readThirdVersion (bs : Bytes) : Option Bytes := do
  let (e, _, rest) ← Der.readShortest bs
  if e.tagClass = 2 ∧ e.number = 0 ∧ e.content = Der.writeNatural 2 then some rest else none

def readTimes (content : Bytes) : Option (Calendar.Instant × Calendar.Instant) := do
  match ← Der.readAll 2 content with
  | [a, b] => some (← timeOf? a.1, ← timeOf? b.1)
  | _ => none

def ofDer? (der : Bytes) : Option Record := do
  let (content, after) ← Der.readSequence der
  let (fields, signed, rest) ← Der.readUniversal Der.sequence true content
  let (algorithm, _, rest) ← Der.readUniversal Der.sequence true rest
  let (signature, rest) ← Der.readOctetBits rest
  let fields ← readThirdVersion fields
  let (serial, _, fields) ← Der.readUniversal Der.integer false fields
  let (innerAlgorithm, _, fields) ← Der.readUniversal Der.sequence true fields
  let (issuer, _, fields) ← Der.readUniversal Der.sequence true fields
  let (validity, fields) ← Der.readSequence fields
  let (notBefore, notAfter) ← readTimes validity
  let (subject, _, fields) ← Der.readUniversal Der.sequence true fields
  let (_, publicKey, fields) ← Der.readUniversal Der.sequence true fields
  let extensions ← readExtensions fields
  if after.isEmpty ∧ rest.isEmpty ∧ algorithm = innerAlgorithm ∧ !serial.isEmpty then
    some { signed, serial, issuer, notBefore, notAfter, subject, publicKey, extensions,
           algorithm, signature }
  else none

def extension? (r : Record) (type : Bytes) : Option Bytes :=
  (r.extensions.find? (·.type == type)).map (·.content)

def isAuthority (r : Record) : Bool :=
  match r.extension? Extension.basicConstraintsType with
  | none => false
  | some content =>
    match Der.readSequence content with
    | some (inner, []) =>
      match Der.readUniversal Der.boolean false inner with
      | some ([0xFF], _, _) => true
      | _ => false
    | _ => false

/-- The types of the purposes that a certificate is limited to, if it is. -/
def purposes? (r : Record) : Option (List Bytes) := do
  let content ← r.extension? Extension.purposesType
  match Der.readSequence content with
  | some (inner, []) =>
    (Der.readAll inner.length inner).map fun es => es.map (·.1.content)
  | _ => some []

/-- Whether a key usage, if the certificate limits them, is among them. -/
def allows (r : Record) (usage : KeyUsage) : Bool :=
  match r.extension? Extension.keyUsageType with
  | none => true
  | some content =>
    match Der.readUniversal Der.bitString false content with
    | some (_ :: octet :: _, _, _) => octet.toNat / Nat.pow 2 (7 - usage.bit) % 2 = 1
    | _ => false

end Record
end Certificate
end DeviceGateway
