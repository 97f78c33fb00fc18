import DeviceGateway.Bytes.Utf8
import DeviceGateway.Der.Element
import DeviceGateway.Policy
import DeviceGateway.Text.Blank

/-!
# Subjects of certificates

A name is a sequence of sets of attributes. It is read as far as its sets are well formed, and a
set as far as its attributes are, of which there must be one. The identity fields are the first
common name, the first organizational unit and the first organization.
-/

namespace DeviceGateway.Certificate

structure Attribute where
  type : Bytes
  value : Der.Element
  deriving DecidableEq, Repr

abbrev AttributeSet := List Attribute

/-- A name: sets of attributes in order. -/
abbrev Name := List AttributeSet

/-! ### Reading -/

/-- An attribute: a sequence of its type, whose tag does not count, and any element. -/
def readAttribute (bs : Bytes) : Option (Attribute × Bytes) := do
  let (e, rest) ← Der.readTagged Der.sequence bs
  let (type, inner) ← Der.readAnyPrimitive e.content
  let (v, _) ← Der.readElement inner
  some (⟨type, v⟩, rest)

/-- Attributes up to the first malformed one; `fuel` bounds their number. -/
def readAttributes : Nat → Bytes → AttributeSet
  | 0, _ => []
  | fuel + 1, bs =>
    match readAttribute bs with
    | none => []
    | some (a, rest) => a :: readAttributes fuel rest

def readSet (bs : Bytes) : Option (AttributeSet × Bytes) := do
  let (e, rest) ← Der.readTagged Der.set bs
  match readAttributes e.content.length e.content with
  | [] => none
  | attributes => some (attributes, rest)

/-- The sets up to the first malformed one; `fuel` bounds their number. -/
def readSets : Nat → Bytes → Name
  | 0, _ => []
  | fuel + 1, bs =>
    match readSet bs with
    | none => []
    | some (attributes, rest) => attributes :: readSets fuel rest

def readName (bs : Bytes) : Option (Name × Bytes) := do
  let (e, rest) ← Der.readTagged Der.sequence bs
  some (readSets e.content.length e.content, rest)

/-! ### Writing -/

def Attribute.encode (a : Attribute) : Bytes :=
  Der.writeSequence (Der.writeObjectId a.type ++ a.value.encode)

def encodeSet (attributes : AttributeSet) : Bytes :=
  Der.writeSet (attributes.flatMap Attribute.encode)

def encodeName (name : Name) : Bytes := Der.writeSequence (name.flatMap encodeSet)

def Attribute.ofText (type : Bytes) (text : String) : Attribute :=
  ⟨type, ⟨0, false, Der.utf8String, Utf8.encodeText text⟩⟩

/-! ### Attribute types -/

/-- The common name, 2.5.4.3. -/
def commonName : Bytes := [0x55, 0x04, 0x03]

def organization : Bytes := [0x55, 0x04, 0x0A]

def organizationalUnit : Bytes := [0x55, 0x04, 0x0B]

/-! ### Identity fields -/

/-- Whether a tag number is that of a string type whose text is read. -/
def isTextTag (n : Nat) : Bool :=
  n == Der.utf8String || n == Der.numericString || n == Der.printableString || n == Der.ia5String

def Attribute.text? (a : Attribute) : Option String :=
  if isTextTag a.value.number then Utf8.decodeText? a.value.content else none

/-- A text without blanks at its ends, if anything is left. -/
def nonBlank? (s : String) : Option String :=
  if Text.isBlank s then none else some (Text.trim s)

/-- The text of the first attribute of a type in any set; later ones do not count. -/
def firstText (type : Bytes) (name : Name) : Option String :=
  ((name.flatten.find? (·.type == type)).bind Attribute.text?).bind nonBlank?

def claimedIdentity (subject : Name) : ClaimedIdentity where
  hubName := firstText organization subject
  deviceId := firstText commonName subject
  moduleId := firstText organizationalUnit subject

end DeviceGateway.Certificate
