import DeviceGateway.Certificate.Reader
import DeviceGateway.Issuance.Template
import DeviceGateway.Pem.Block
import DeviceGateway.Signature.KeyReader

/-!
# Issuers

An issuer is a name, taken from the certificate of an authority, and a key. Each set of the name
must hold a single attribute with a text of its type; of two attributes of a type the later text
counts, at the place of the earlier one.
-/

namespace DeviceGateway

open Certificate (Attribute Name)

structure Issuer where
  name : Name
  key : SigningKey
  deriving DecidableEq, Repr

namespace Issuer

/-- The tag numbers of texts with other character sets. -/
def teletexString : Nat := 20
def universalString : Nat := 28
def bmpString : Nat := 30

def isPrintable (c : Char) : Bool :=
  c.isAlphanum || [' ', '\'', '(', ')', '+', ',', '-', '.', '/', ':', '=', '?'].contains c

/-- The numbers of two octets that octets are made of. -/
def pairs : Bytes → Option (List Nat)
  | [] => some []
  | a :: b :: rest => (pairs rest).map fun more => (a.toNat * 256 + b.toNat) :: more
  | _ => none

/-- The numbers of four octets that octets are made of, from those of two. -/
def quads : List Nat → Option (List Nat)
  | [] => some []
  | a :: b :: rest => (quads rest).map fun more => (a * 65536 + b) :: more
  | _ => none

def isCharNumber (n : Nat) : Bool := n < 0xD800 || (0xE000 ≤ n && n < 0x110000)

/-- Why the certificate of an authority gives no issuer. -/
def unreadable : String := "Could not parse certificate"

def invalid (type text : String) : String := "Invalid " ++ type ++ ": '" ++ text ++ "'"

/-- What is said of octets that hold no characters of two or of four octets. -/
def utf16Fault : String := "Invalid UTF-16 encoding"
def utf32Fault : String := "Invalid UTF-32 encoding"

def checkText (a : Attribute) : Except String Unit :=
  let content := a.value.content
  let among := fun (type : String) (isIn : Char → Bool) =>
    match Utf8.decodeText? content with
    | none => .error unreadable
    | some s =>
      if s.toList.all isIn then .ok () else .error (invalid type s)
  if a.value.number = Der.utf8String then among "UTF8String" fun _ => true
  else if a.value.number = Der.printableString then among "PrintableString" isPrintable
  else if a.value.number = Der.ia5String then among "IA5String" (·.toNat < 128)
  else if a.value.number = teletexString then
    among "TeletexString" fun c => 0x20 ≤ c.toNat && c.toNat ≤ 0x7F
  else if a.value.number = bmpString then
    match pairs content with
    | some units =>
      if units.all isCharNumber then .ok () else .error (invalid "BMPString" utf16Fault)
    | none => .error (invalid "BMPString" utf16Fault)
  else if a.value.number = universalString then
    match (pairs content).bind quads with
    | some units =>
      if units.all isCharNumber then .ok () else .error (invalid "UniversalString" utf32Fault)
    | none => .error (invalid "UniversalString" utf32Fault)
  else .error unreadable

/-- A name with an attribute: in the place of one of the same type, else at the end. -/
def withAttribute (name : Name) (a : Attribute) : Name :=
  if name.any (·.any (·.type == a.type)) then
    name.map fun s => if s.any (·.type == a.type) then [a] else s
  else name ++ [[a]]

def nameOf (subject : Name) : Except String Name :=
  subject.foldlM (fun name attributes =>
    match attributes with
    | [a] => (checkText a).map fun _ => withAttribute name a
    | _ => .error unreadable) []

def firstCertificate? (text : String) : Option Bytes :=
  ((Pem.read (Utf8.encodeText text)).1.find? (·.kind == .certificate)).map (·.der)

def ofTexts (certificate key : String) : Except GatewayError Issuer := do
  let keyFault := fun text => GatewayError.certificate ("Failed to parse CA key: " ++ text)
  let nameFault := fun text => GatewayError.certificate ("Failed to parse CA cert: " ++ text)
  let der ← (Pem.readBlock key).mapError fun f => keyFault ("PEM error: " ++ f.message)
  match SigningKey.ofGeneral? .issuing der with
  | none => .error (keyFault "Could not parse key pair")
  | some key =>
    match (firstCertificate? certificate).bind Certificate.readSubject? with
    | none => .error (nameFault unreadable)
    | some subject => (nameOf subject).mapError nameFault |>.map fun name => ⟨name, key⟩

end Issuer
end DeviceGateway
