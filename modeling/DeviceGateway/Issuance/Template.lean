import DeviceGateway.Error
import DeviceGateway.Signature.Key

/-!
# What is issued

A template says what a certificate vouches for: the subject, what its key is for, and the day on
which it ends. Devices carry their id as common name, their module as organizational unit and their
hub as organization.
-/

namespace DeviceGateway

open Calendar (Date Instant)
open Certificate (Attribute Name KeyUsage Purpose)

structure Template where
  subject : Name
  notAfter : Date
  usages : List KeyUsage
  purposes : List Purpose := []
  dnsNames : List String := []
  isAuthority : Bool := false
  deriving DecidableEq, Repr

namespace Template

/-! ### The last day -/

/-- The day on which a certificate ends that is issued now for a number of days: its first instant
is at most that number of days away. The seconds from 1970-01-01 to now are a word of 64 bits and
the days one of 32. -/
def lastDay (now days : Nat) : Except GatewayError Date :=
  let seconds := (Instant.secondsAfter (.ofNat now) (.ofNat days)).toNatClampNeg
  if Instant.lastSecond < seconds then
    .error (.certificate "Date calculation error: timestamp was not in range")
  else .ok (Instant.ofSeconds seconds).date

/-- The day on which every certificate starts, long past. -/
def firstDay : Date := ⟨1975, 1, 1⟩

/-! ### Kinds of certificates -/

def commonNameOnly (text : String) : Name := [[.ofText Certificate.commonName text]]

def authority (now : Nat) (name : String) (days : Nat) : Except GatewayError Template := do
  let notAfter ← lastDay now days
  .ok {
    subject := commonNameOnly name
    notAfter
    usages := [.keyCertSign, .crlSign, .digitalSignature]
    isAuthority := true }

def badHostName? (names : List String) : Option String :=
  names.find? fun n => !n.toList.all (·.toNat < 128)

/-- The gateway's own certificate for host names. -/
def server (now : Nat) (name : String) (dnsNames : List String) (days : Nat) :
    Except GatewayError Template := do
  let notAfter ← lastDay now days
  match badHostName? dnsNames with
  | some bad =>
    .error (.certificate ("Invalid DNS SAN '" ++ bad ++ "': Invalid IA5String: '" ++ bad ++ "'"))
  | none =>
    .ok {
      subject := commonNameOnly name
      notAfter
      usages := [.digitalSignature]
      purposes := [.serverAuth]
      dnsNames }

/-- The name of a device, of a module if one is given, and of its hub if one is given. -/
def deviceName (deviceId : String) (moduleId hubName : Option String) : Name :=
  [[.ofText Certificate.commonName deviceId]]
    ++ (moduleId.toList.map fun m => [.ofText Certificate.organizationalUnit m])
    ++ (hubName.toList.map fun h => [.ofText Certificate.organization h])

def device (now : Nat) (deviceId : String) (moduleId hubName : Option String) (days : Nat) :
    Except GatewayError Template := do
  let notAfter ← lastDay now days
  .ok {
    subject := deviceName deviceId moduleId hubName
    notAfter
    usages := [.digitalSignature]
    purposes := [.clientAuth] }

/-! ### Certificates of a template -/

/-- The identifier of a key: the start of its digest. -/
def keyId (key : Certificate.KeyInfo) : Bytes := (Sha256.digest key.encode).take 20

/-- The serial number of a key's certificate: its identifier with a clear sign bit. -/
def serial (key : Certificate.KeyInfo) : Bytes :=
  match keyId key with
  | [] => []
  | b :: rest => UInt8.ofNat (b.toNat % 128) :: rest

def extensions (t : Template) (key : Certificate.KeyInfo) : List Certificate.Extension :=
  (if t.dnsNames.isEmpty then [] else [.dnsNames t.dnsNames])
    ++ [.keyUsages t.usages]
    ++ (if t.purposes.isEmpty then [] else [.purposes t.purposes])
    ++ (if t.isAuthority then [.keyIdentifier (keyId key), .authority] else [])

def certify (t : Template) (key : Certificate.KeyInfo) (issuer : Name) (issuerKey : SigningKey) :
    Certificate :=
  let fields : Certificate.Fields := {
    serial := serial key
    algorithm := issuerKey.algorithm
    issuer
    notBefore := Instant.midnight firstDay
    notAfter := Instant.midnight t.notAfter
    subject := t.subject
    publicKey := key
    extensions := t.extensions key }
  ⟨fields, issuerKey.algorithm, issuerKey.sign fields.encode⟩

end Template
end DeviceGateway
