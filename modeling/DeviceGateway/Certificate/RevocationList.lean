import DeviceGateway.Certificate.Record
import DeviceGateway.Signature.Key

/-!
# Revocation lists

A list of the serial numbers that an authority has revoked, with the authority's signature.
-/

namespace DeviceGateway

open Certificate (Name)
open Calendar (Instant)

/-- A list as it is consulted; the issuer is kept as it is written. -/
structure RevocationList where
  signed : Bytes
  issuer : Bytes
  serials : List Bytes
  algorithm : Bytes
  signature : Bytes
  deriving DecidableEq, Repr

inductive RevocationListFault where
  | surplus
  | version
  | malformed
  deriving DecidableEq, Repr

def RevocationListFault.message : RevocationListFault → String
  | .surplus => "Other(OtherError(TrailingData(CertRevocationList)))"
  | .version => "UnsupportedCrlVersion"
  | .malformed => "ParseError"

namespace RevocationList

/-! ### Reading -/

def readEntry (content : Bytes) : Option Bytes := do
  let (serial, _, rest) ← Der.readUniversal Der.integer false content
  let (time, _, _) ← Der.readShortest rest
  let _ ← Certificate.timeOf? time
  if serial.isEmpty then none else some serial

/-- The entries at the start of octets, if there are any, with what follows them. -/
def readEntries (bs : Bytes) : Option (List Bytes × Bytes) :=
  match Der.readSequence bs with
  | none => some ([], bs)
  | some (content, rest) => do
    let entries ← Der.readAll content.length content
    let serials ← entries.mapM fun x =>
      if x.1.tagClass = 0 ∧ x.1.number = Der.sequence then readEntry x.1.content else none
    some (serials, rest)

/-- The issuer and the serial numbers after the version. -/
def readFields (fields : Bytes) : Option (Bytes × Bytes × List Bytes) := do
  let (algorithm, _, rest) ← Der.readUniversal Der.sequence true fields
  let (issuer, _, rest) ← Der.readUniversal Der.sequence true rest
  let (thisUpdate, _, rest) ← Der.readShortest rest
  let _ ← Certificate.timeOf? thisUpdate
  let (nextUpdate, _, rest) ← Der.readShortest rest
  let _ ← Certificate.timeOf? nextUpdate
  let (serials, rest) ← readEntries rest
  if rest.isEmpty then some (algorithm, issuer, serials)
  else
    let (e, _, after) ← Der.readShortest rest
    if e.tagClass = 2 ∧ e.number = 0 ∧ after.isEmpty then
      some (algorithm, issuer, serials)
    else none

/-- The signed part of a list, its algorithm and its signature. -/
def readSigned (content : Bytes) : Option (Bytes × Bytes × Bytes × Bytes) := do
  let (fields, signed, rest) ← Der.readUniversal Der.sequence true content
  let (algorithm, _, rest) ← Der.readUniversal Der.sequence true rest
  let (signature, rest) ← Der.readOctetBits rest
  if rest.isEmpty then some (fields, signed, algorithm, signature) else none

def ofDer (der : Bytes) : Except RevocationListFault RevocationList :=
  match Der.readSequence der with
  | some (content, []) =>
    match readSigned content with
    | none => .error .malformed
    | some (fields, signed, algorithm, signature) =>
      match Der.readUniversal Der.integer false fields with
      | none => .error .malformed
      | some (version, _, fields) =>
        if version ≠ [1] then .error .version
        else
          match readFields fields with
          | some (inner, issuer, serials) =>
            if inner = algorithm then .ok { signed, issuer, serials, algorithm, signature }
            else .error .malformed
          | none => .error .malformed
  | _ => .error .surplus

/-! ### Writing -/

/-- The encoding of a list that an authority signs; it counts from a day on and until another. -/
def issue (issuer : Name) (key : SigningKey) (since until' : Instant) (serials : List Bytes) :
    Bytes :=
  let entry := fun serial =>
    Der.writeSequence (Der.writePrimitive Der.integer serial ++ Certificate.encodeTime since)
  let numberExtension : Certificate.Extension := ⟨[0x55, 0x1D, 0x14], false, Der.writeNatural 1⟩
  let fields := Der.writeSequence (
    Der.writeNatural 1 ++ key.algorithm.encode ++ Certificate.encodeName issuer
    ++ Certificate.encodeTime since ++ Certificate.encodeTime until'
    ++ (if serials.isEmpty then [] else Der.writeSequence (serials.flatMap entry))
    ++ Der.writeTagged 0 (Der.writeSequence numberExtension.encode))
  Der.writeSequence (fields ++ key.algorithm.encode ++ Der.writeBitString (key.sign fields))

end RevocationList
end DeviceGateway
