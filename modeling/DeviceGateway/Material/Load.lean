import DeviceGateway.Error
import DeviceGateway.Files
import DeviceGateway.Pem.Section

/-!
# Loading material

Certificates, private keys and revocation lists from files of sections. A file without a
certificate or without a key is refused; a file without a revocation list holds none.
-/

namespace DeviceGateway

inductive KeyForm where
  | rsa
  | ec
  | general
  deriving DecidableEq, Repr

def KeyForm.name : KeyForm → String
  | rsa => "pkcs1"
  | ec => "sec1"
  | general => "pkcs8"

def KeyForm.ofName? (name : String) : Option KeyForm :=
  [rsa, ec, general].find? (·.name == name)

structure PrivateKey where
  form : KeyForm
  der : Bytes
  deriving DecidableEq, Repr

def KeyForm.kind : KeyForm → Pem.Kind
  | rsa => .rsaKey
  | ec => .ecKey
  | general => .pkcs8Key

def KeyForm.ofKind? : Pem.Kind → Option KeyForm
  | .rsaKey => some rsa
  | .ecKey => some ec
  | .pkcs8Key => some general
  | _ => none

namespace Material

def malformed (f : Pem.Fault) : GatewayError := .certificate ("invalid PEM: " ++ f.message)

/-- The certificates of a file's content, at least one. -/
def parseCertificates (content : Bytes) : Except GatewayError (List Bytes) :=
  match Pem.readKind .certificate content with
  | .error f => .error (malformed f)
  | .ok [] => .error (.certificate "no certificates found")
  | .ok certificates => .ok certificates

def parsePrivateKey (content : Bytes) : Except GatewayError PrivateKey :=
  match Pem.readPrivateKey content with
  | .error f => .error (malformed f)
  | .ok s =>
    match s.bind fun s => (KeyForm.ofKind? s.kind).map (PrivateKey.mk · s.der) with
    | some key => .ok key
    | none => .error (.certificate "no private key found")

def readFile (files : FileTree) (path : String) : Except GatewayError Bytes :=
  (files.read path).mapError fun f =>
    .certificate ("Cannot read '" ++ path ++ "': " ++ f.message)

def loadCertificates (files : FileTree) (path : String) : Except GatewayError (List Bytes) := do
  (parseCertificates (← readFile files path)).mapError fun e =>
    .certificate ("Failed to parse certs from '" ++ path ++ "': " ++ e.message)

def loadPrivateKey (files : FileTree) (path : String) : Except GatewayError PrivateKey := do
  (parsePrivateKey (← readFile files path)).mapError fun e =>
    .certificate ("Failed to parse private key from '" ++ path ++ "': " ++ e.message)

def loadRevocationLists (files : FileTree) (path : String) : Except GatewayError (List Bytes) := do
  (Pem.readKind .revocationList (← readFile files path)).mapError fun f =>
    .certificate ("Failed to parse CRL from '" ++ path ++ "': " ++ f.message)

end Material
end DeviceGateway
