import DeviceGateway.Program.Certificates
import DeviceGateway.Config.Basic

/-!
# The paths of a run

Which paths a run looks at or writes to, so that whoever runs the program can collect the files
beforehand and put back what has changed. Every path comes after the directories above it.
-/

namespace DeviceGateway

/-- A path with the directories above it, the outermost first. -/
def FileTree.waypoints (path : String) : List String :=
  let parts := Text.splitOn '/' path.toList
  (List.range parts.length).map fun n =>
    String.ofList (List.intercalate ['/'] (parts.take (n + 1)))

def Issued.paths (directory : Bytes) (stem : String) : List String :=
  let directory := Utf8.repair directory
  [FileTree.join directory (stem ++ ".crt"), FileTree.join directory (stem ++ ".key")]

def AuthorityPaths.paths (p : AuthorityPaths) : List String :=
  [Utf8.repair p.certificate, Utf8.repair p.key]

def Command.paths : Command → List String
  | .serve => []
  | .initAuthority o => Issued.paths o.directory CertificateCommand.authorityStem
  | .issueServer o => o.authority.paths ++ Issued.paths o.directory o.stem
  | .issueDevice o => o.authority.paths ++ Issued.paths o.directory o.fileStem
  | .thumbprint file => [Utf8.repair file]

def Invocation.paths (i : Invocation) : List String :=
  (i.config.toList.map Utf8.repair) ++ (i.command.map Command.paths).getD []

def Config.paths (c : Config) : List String :=
  [c.tls.serverCert, c.tls.serverKey] ++ c.tls.caCert.toList ++ c.tls.crlPath.toList

/-- The variables of a block in which each ends with a zero octet. -/
def Environment.ofBlock (block : Bytes) : List (String × String) :=
  (Text.splitOn '\x00' (Utf8.repair block).toList).filterMap fun entry =>
    match entry.dropWhile (· ≠ '=') with
    | '=' :: value => some (String.ofList (entry.takeWhile (· ≠ '=')), String.ofList value)
    | _ => none

end DeviceGateway
