import DeviceGateway.Files
import DeviceGateway.Issuance.Issuer

/-!
# Issued certificates

A certificate with the private key that was made for it, how both are issued, and how they are
written into a directory.
-/

namespace DeviceGateway

/-- A certificate and the private key of its owner, as texts. -/
structure Issued where
  certificate : String
  key : String
  deriving DecidableEq, Repr

namespace Issued

def ofParts (certificate : Certificate) (key : SigningKey) : Issued where
  certificate := (Pem.Section.mk .certificate certificate.encode).text
  key := (Pem.Section.mk .pkcs8Key key.encode).text

def selfSigned (t : Template) (key : SigningKey) : Issued :=
  ofParts (t.certify key.publicKey t.subject key) key

def signedBy (issuer : Issuer) (t : Template) (key : SigningKey) : Issued :=
  ofParts (t.certify key.publicKey issuer.name issuer.key) key

/-! ### Issuing -/

def rootAuthority (now : Nat) (key : SigningKey) (name : String) (days : Nat) :
    Except GatewayError Issued := do
  let t ← Template.authority now name days
  .ok (selfSigned t key)

/-- A certificate from an authority that is given as two texts. -/
def fromAuthority (t : Except GatewayError Template) (caCertificate caKey : String)
    (key : SigningKey) : Except GatewayError Issued := do
  let t ← t
  let issuer ← Issuer.ofTexts caCertificate caKey
  .ok (signedBy issuer t key)

/-! ### Writing -/

def writePart (files : FileTree) (hindered : Hindrances) (what path text : String) :
    FileTree × Except GatewayError Unit :=
  match files.write hindered path (Utf8.encodeText text) with
  | (files, .ok _) => (files, .ok ())
  | (files, .error f) => (files, .error (.certificate ("Cannot write " ++ what ++ ": " ++ f.message)))

/-- Write the certificate and then the key into a directory, which is made if it is not there.
What was done before a fault stays. -/
def writeTo (issued : Issued) (files : FileTree) (directory stem : String)
    (hindered : Hindrances := .nowhere) : FileTree × Except GatewayError Unit :=
  match files.makeDirectories hindered directory with
  | (files, .error f) =>
    (files, .error (.certificate ("Cannot create dir '" ++ directory ++ "': " ++ f.message)))
  | (files, .ok _) =>
    match writePart files hindered "cert" (FileTree.join directory (stem ++ ".crt"))
        issued.certificate with
    | (files, .error e) => (files, .error e)
    | (files, .ok _) =>
      writePart files hindered "key" (FileTree.join directory (stem ++ ".key")) issued.key

end Issued
end DeviceGateway
