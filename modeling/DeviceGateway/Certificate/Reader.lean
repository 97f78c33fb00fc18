import DeviceGateway.Certificate.Subject
import DeviceGateway.Certificate.Validity

/-!
# Reading certificates

The fields of a certificate are read in order; what follows them inside their sequence is passed
over, except that the extensions must be consumed whole. The tag of an object identifier does not
count. Only the subject is kept.
-/

namespace DeviceGateway.Certificate

/-- What follows an algorithm identifier: an object identifier and any parameters. -/
def readAlgorithm (bs : Bytes) : Option Bytes := do
  let (e, rest) ← Der.readTagged Der.sequence bs
  let (_, parameters) ← Der.readAnyPrimitive e.content
  if parameters.isEmpty then some rest
  else (Der.readElement parameters).map fun _ => rest

/-- The number of zero bits at the end of an octet. -/
def trailingZeros (b : UInt8) : Nat :=
  ((List.range 8).filter fun i => b.toNat % Nat.pow 2 (i + 1) = 0).length

/-- Whether the content of a bit string is sound: a count of unused bits, all of them zero. -/
def isBitString : Bytes → Bool
  | [] => false
  | [unused] => unused == 0
  | unused :: bits => unused.toNat ≤ trailingZeros (bits.getLastD 0)

def readBitString (bs : Bytes) : Option Bytes := do
  let (content, rest) ← Der.readPrimitive Der.bitString bs
  if isBitString content then some rest else none

/-- Whether the content of an integer is a shortest unsigned number below 2^32. -/
def isVersion : Bytes → Bool
  | [] => false
  | [b] => b < 128
  | b :: c :: rest =>
    b < 128 && !(b == 0 && c < 128) && (if b = 0 then rest.length ≤ 3 else rest.length ≤ 2)

/-- What follows the version, which may be absent. -/
def readVersion (bs : Bytes) : Option Bytes := do
  let (e, rest) ← Der.readElement bs
  if e.number ≠ 0 then some bs
  else if e.tagClass ≠ 2 then none
  else
    let (v, _) ← Der.readPrimitive Der.integer e.content
    if isVersion v then some rest else none

/-- What follows a unique identifier of the given tag, which may be absent. -/
def readUniqueId (tag : Nat) (bs : Bytes) : Option Bytes :=
  if bs.isEmpty then some bs
  else do
    let (e, rest) ← Der.readElement bs
    if e.number ≠ tag then some bs
    else if e.tagClass ≠ 2 ∨ e.content.isEmpty then none
    else some rest

def readPublicKey (bs : Bytes) : Option Bytes := do
  let (e, rest) ← Der.readTagged Der.sequence bs
  let inner ← readAlgorithm e.content
  let _ ← readBitString inner
  some rest

/-- What follows the mark of a critical extension, which may be absent. -/
def readCritical (bs : Bytes) : Option Bytes := do
  let (e, rest) ← Der.readElement bs
  if e.number ≠ Der.boolean then some bs
  else if e.constructed ∨ e.content.length ≠ 1 then none
  else some rest

/-- What follows an extension: a type, a mark and an octet string. -/
def readExtension (bs : Bytes) : Option Bytes := do
  let (e, rest) ← Der.readTagged Der.sequence bs
  let (_, inner) ← Der.readAnyPrimitive e.content
  let inner ← readCritical inner
  let _ ← Der.readPrimitive Der.octetString inner
  some rest

/-- Whether octets are extensions and nothing else; `fuel` bounds their number. -/
def areExtensions : Nat → Bytes → Bool
  | _, [] => true
  | 0, _ => false
  | fuel + 1, bs =>
    match readExtension bs with
    | none => false
    | some rest => areExtensions fuel rest

/-- The number of octets that start an element before its content. -/
def afterHeader (bs : Bytes) : Option (Nat × Bytes) := do
  let ((_, _, number), rest) ← Der.readIdentifier bs
  let (_, rest) ← Der.readLength rest
  some (number, rest)

/-- Whether the end of a certificate's fields is sound: nothing, or the wrapped extensions. The
length of the wrapper does not count; its content reaches to the end of the fields. -/
def areFinalFields (bs : Bytes) : Bool :=
  bs.isEmpty ||
    match afterHeader bs with
    | none => false
    | some (number, rest) =>
      number == 3 &&
        match Der.readTagged Der.sequence rest with
        | some (e, []) => areExtensions e.content.length e.content
        | _ => false

/-- The subject among the signed fields of a certificate. -/
def readSignedFields (bs : Bytes) : Option (Name × Bytes) := do
  let (e, after) ← Der.readTagged Der.sequence bs
  let rest ← readVersion e.content
  let (_, rest) ← Der.readTagged Der.integer rest
  let rest ← readAlgorithm rest
  let (_, rest) ← readName rest
  let rest ← readValidity rest
  let (subject, rest) ← readName rest
  let rest ← readPublicKey rest
  let rest ← readUniqueId 1 rest
  let rest ← readUniqueId 2 rest
  if areFinalFields rest then some (subject, after) else none

/-- The subject of a certificate; octets after the certificate are passed over. -/
def readSubject? (der : Bytes) : Option Name := do
  let (e, _) ← Der.readTagged Der.sequence der
  let (subject, rest) ← readSignedFields e.content
  let rest ← readAlgorithm rest
  let _ ← readBitString rest
  some subject

/-- The identity that a certificate claims; nothing if it cannot be read. -/
def identityOf (der : Bytes) : ClaimedIdentity :=
  match readSubject? der with
  | some subject => claimedIdentity subject
  | none => {}

end DeviceGateway.Certificate
