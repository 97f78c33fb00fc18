import DeviceGateway.CommandLine.Basic
import DeviceGateway.Credential
import DeviceGateway.Issuance.Issued
import DeviceGateway.Material.Load

/-!
# The certificate commands

Each command reads what it needs from files, issues a certificate, writes it with its key into a
directory and tells where. A command that fails tells what it was doing; what it wrote before stays.
-/

namespace DeviceGateway

/-- How a command ends: the files after it, what it told, and its fault. -/
structure CommandEnd where
  files : FileTree
  output : List String := []
  fault : Option String := none
  deriving DecidableEq, Repr

namespace CertificateCommand

/-! ### Parts of commands -/

/-- A result whose fault tells what was being done. -/
def whileDoing {α : Type} (doing : String) : Except GatewayError α → Except String α
  | .ok a => .ok a
  | .error e => .error (doing ++ ": " ++ e.message)

def readInput (files : FileTree) (what : String) (path : Bytes) : Except String String :=
  match files.readText (Utf8.repair path) with
  | .ok text => .ok text
  | .error f =>
    .error ("reading " ++ what ++ " " ++ Utf8.repair path ++ ": " ++ f.message)

def readAuthority (files : FileTree) (paths : AuthorityPaths) :
    Except String (String × String) := do
  let certificate ← readInput files "CA certificate" paths.certificate
  let key ← readInput files "CA key" paths.key
  .ok (certificate, key)

def issuedThumbprint (issued : Issued) : Except GatewayError String := do
  let ders ← Material.parseCertificates (Utf8.encodeText issued.certificate)
  .ok (thumbprint (ders.headD []))

/-- Write what was issued, and tell where it is and what else there is to tell. -/
def deliver (files : FileTree) (hindered : Hindrances) (doing what : String)
    (issued : Except String Issued) (directory : Bytes) (stem : String)
    (more : Issued → Except GatewayError (List String)) : CommandEnd :=
  match issued with
  | .error fault => { files, fault := some fault }
  | .ok issued =>
    let directory := Utf8.repair directory
    match issued.writeTo files directory stem hindered with
    | (files, .error e) => { files, fault := some (doing ++ ": " ++ e.message) }
    | (files, .ok _) =>
      match more issued with
      | .error e => { files, fault := some ("reading back certificate: " ++ e.message) }
      | .ok lines =>
        let path := FileTree.join directory (stem ++ ".crt")
        { files, output := (what ++ " written to " ++ path) :: lines }

def nothingMore (_ : Issued) : Except GatewayError (List String) := .ok []

def tellThumbprint (issued : Issued) : Except GatewayError (List String) := do
  .ok ["Thumbprint: " ++ (← issuedThumbprint issued)]

/-! ### Commands -/

def authorityStem : String := "ca"

def issueAuthority (now : Nat) (key : SigningKey) (o : AuthorityOrder) : Except String Issued :=
  whileDoing "generating CA" (Issued.rootAuthority now key o.name o.days.toNat)

def issueServer (files : FileTree) (now : Nat) (key : SigningKey) (o : ServerOrder) :
    Except String Issued := do
  let (certificate, caKey) ← readAuthority files o.authority
  whileDoing "issuing server certificate"
    (Issued.fromAuthority (Template.server now o.name o.dnsNames o.days.toNat)
      certificate caKey key)

def issueDevice (files : FileTree) (now : Nat) (key : SigningKey) (hubName : Option String)
    (o : DeviceOrder) : Except String Issued := do
  let (certificate, caKey) ← readAuthority files o.authority
  whileDoing "issuing device certificate"
    (Issued.fromAuthority (Template.device now o.deviceId o.moduleId hubName o.days.toNat)
      certificate caKey key)

def runThumbprint (files : FileTree) (file : Bytes) : CommandEnd :=
  match Utf8.decodeText? file with
  | none => { files, fault := some ("path is not valid UTF-8: " ++ Utf8.repair file) }
  | some path =>
    match whileDoing ("loading " ++ path) (Material.loadCertificates files path) with
    | .error fault => { files, fault := some fault }
    | .ok ders => { files, output := ders.map thumbprint }

/-- Carry out a certificate command at a time with a fresh key. -/
def run? (files : FileTree) (hindered : Hindrances) (now : Nat) (key : SigningKey)
    (hubName : Option String) : Command → Option CommandEnd
  | .initAuthority o =>
    some (deliver files hindered "writing CA" "CA" (issueAuthority now key o)
      o.directory authorityStem nothingMore)
  | .issueServer o =>
    some (deliver files hindered "writing server certificate" "Server certificate"
      (issueServer files now key o) o.directory o.stem nothingMore)
  | .issueDevice o =>
    some (deliver files hindered "writing device certificate" "Device certificate"
      (issueDevice files now key hubName o) o.directory o.fileStem tellThumbprint)
  | .thumbprint file => some (runThumbprint files file)
  | .serve => none

end CertificateCommand
end DeviceGateway
