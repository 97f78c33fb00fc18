import DeviceGateway.Bytes.Sha256

/-!
# Elements of distinguished encoding

An element has an identifier (class, constructed bit, tag number), a length and a content. The
reader takes long and non-minimal lengths of up to eight octets and tag numbers of up to five
octets, but no indefinite length. The writer uses the shortest forms.
-/

namespace DeviceGateway.Der

/-- An element of the encoding; `tagClass` is 0 for universal and 2 for context-specific. -/
structure Element where
  tagClass : Nat
  constructed : Bool
  number : Nat
  content : Bytes
  deriving DecidableEq, Repr

/-- Bits in octets. The unused ones, at the end of the last octet, are zero. -/
structure BitString where
  octets : Bytes
  unused : Fin 8
  whole : octets = [] → unused.val = 0
  zero : (octets.getLastD 0).toNat % Nat.pow 2 unused = 0
  deriving DecidableEq, Repr

def BitString.ofOctets (octets : Bytes) : BitString := ⟨octets, 0, fun _ => rfl, Nat.mod_one _⟩

instance : Coe Bytes BitString := ⟨.ofOctets⟩

/-- The content of an element: the number of unused bits, then the octets. -/
def BitString.content (b : BitString) : Bytes := UInt8.ofNat b.unused :: b.octets

/-! ### Reading -/

/-- A tag number of seven bits an octet, kept in 32 bits; at most `fuel` octets. -/
def readTagNumber : Nat → Nat → Bytes → Option (Nat × Bytes)
  | 0, _, _ => none
  | _ + 1, _, [] => none
  | fuel + 1, acc, b :: rest =>
    let n := (acc * 128 + b.toNat % 128) % 4294967296
    if b.toNat < 128 then some (n, rest) else readTagNumber fuel n rest

/-- The class, the constructed bit and the tag number. -/
def readIdentifier : Bytes → Option ((Nat × Bool × Nat) × Bytes)
  | [] => none
  | b :: rest =>
    let tagClass := b.toNat / 64
    let constructed := b.toNat / 32 % 2 == 1
    if b.toNat % 32 = 31 then
      (readTagNumber 5 0 rest).map fun (n, rest) => ((tagClass, constructed, n), rest)
    else some ((tagClass, constructed, b.toNat % 32), rest)

/-- An unsigned number, most significant octet first. -/
def ofBigEndian (bs : Bytes) : Nat := bs.foldl (fun acc b => acc * 256 + b.toNat) 0

def readLength : Bytes → Option (Nat × Bytes)
  | [] => none
  | b :: rest =>
    if b.toNat < 128 then some (b.toNat, rest)
    else
      let n := b.toNat - 128
      if n = 0 ∨ n > 8 ∨ rest.length < n then none
      else some (ofBigEndian (rest.take n), rest.drop n)

def readElement (bs : Bytes) : Option (Element × Bytes) := do
  let ((tagClass, constructed, number), rest) ← readIdentifier bs
  let (length, rest) ← readLength rest
  if rest.length < length then none
  else some (⟨tagClass, constructed, number, rest.take length⟩, rest.drop length)

/-- The next element, which must have the given tag number. -/
def readTagged (number : Nat) (bs : Bytes) : Option (Element × Bytes) := do
  let (e, rest) ← readElement bs
  if e.number = number then some (e, rest) else none

/-- The content of the next element, a primitive one of any tag. -/
def readAnyPrimitive (bs : Bytes) : Option (Bytes × Bytes) := do
  let (e, rest) ← readElement bs
  if e.constructed then none else some (e.content, rest)

/-- The content of the next element, a primitive one of the given tag number. -/
def readPrimitive (number : Nat) (bs : Bytes) : Option (Bytes × Bytes) := do
  let (e, rest) ← readTagged number bs
  if e.constructed then none else some (e.content, rest)

/-! ### Tag numbers -/

def boolean : Nat := 1
def integer : Nat := 2
def bitString : Nat := 3
def octetString : Nat := 4
def objectId : Nat := 6
def utf8String : Nat := 12
def sequence : Nat := 16
def set : Nat := 17
def numericString : Nat := 18
def printableString : Nat := 19
def ia5String : Nat := 22
def utcTime : Nat := 23
def generalizedTime : Nat := 24

/-! ### Writing -/

/-- The octets of a number, most significant first, none for zero; `fuel` bounds their count. -/
def bigEndianDigits : Nat → Nat → Bytes
  | 0, _ => []
  | fuel + 1, n => if n = 0 then [] else bigEndianDigits fuel (n / 256) ++ [UInt8.ofNat n]

def toBigEndian (n : Nat) : Bytes := bigEndianDigits n n

def writeLength (n : Nat) : Bytes :=
  if n < 128 then [UInt8.ofNat n]
  else let ds := toBigEndian n; UInt8.ofNat (128 + ds.length) :: ds

/-- The digits of a number to the base 128, most significant first; all are marked as followed by
another if `followed` holds, else all but the last. `fuel` bounds their count. -/
def base128Digits : Nat → Bool → Nat → Bytes
  | 0, _, _ => []
  | fuel + 1, followed, n =>
    (if n < 128 then [] else base128Digits fuel true (n / 128))
      ++ [UInt8.ofNat (n % 128 + if followed then 128 else 0)]

def toBase128 (n : Nat) : Bytes := base128Digits (n + 1) false n

/-- The identifier of an element, in one octet if the tag number is below 31. -/
def writeIdentifier (tagClass : Nat) (constructed : Bool) (number : Nat) : Bytes :=
  let first := tagClass * 64 + if constructed then 32 else 0
  if number < 31 then [UInt8.ofNat (first + number)]
  else UInt8.ofNat (first + 31) :: toBase128 number

def Element.encode (e : Element) : Bytes :=
  writeIdentifier e.tagClass e.constructed e.number ++ writeLength e.content.length ++ e.content

def writeSequence (content : Bytes) : Bytes := Element.encode ⟨0, true, sequence, content⟩

def writeSet (content : Bytes) : Bytes := Element.encode ⟨0, true, set, content⟩

def writePrimitive (number : Nat) (content : Bytes) : Bytes :=
  Element.encode ⟨0, false, number, content⟩

def writeObjectId (id : Bytes) : Bytes := writePrimitive objectId id

/-- An unsigned number: a zero octet keeps the sign bit clear. -/
def writeNatural (n : Nat) : Bytes :=
  let ds := toBigEndian n
  writePrimitive integer (if (ds.headD 0).toNat < 128 ∧ ds ≠ [] then ds else 0 :: ds)

def writeBitString (b : BitString) : Bytes := writePrimitive bitString b.content

def writeOctetString (octets : Bytes) : Bytes := writePrimitive octetString octets

/-- Encoded elements below a tag of the context. -/
def writeTagged (number : Nat) (content : Bytes) : Bytes :=
  Element.encode ⟨2, true, number, content⟩

end DeviceGateway.Der
