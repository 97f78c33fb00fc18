import DeviceGateway.CommandLine.Parameter

/-!
# Levels

The command line descends from the program to a command, and from the certificate commands to one
of them. Every level has parameters of its own, and those that can be given at any level.
-/

namespace DeviceGateway.CommandLine

inductive Level where
  | program
  | serve
  | certificates
  | initAuthority
  | issueServer
  | issueDevice
  | thumbprint
  /-- The command that shows the help of another one. -/
  | help
  deriving DecidableEq, Repr

namespace Level

def name : Level → String
  | program => "edge-gateway"
  | serve => "serve"
  | certificates => "tls"
  | initAuthority => "init-ca"
  | issueServer => "issue-server"
  | issueDevice => "issue-device"
  | thumbprint => "thumbprint"
  | help => "help"

def fullName : Level → String
  | program => program.name
  | serve => program.name ++ " " ++ serve.name
  | certificates => program.name ++ " " ++ certificates.name
  | help => program.name ++ " " ++ help.name
  | l => program.name ++ " " ++ certificates.name ++ " " ++ l.name

def summary : Level → String
  | program => "Edge gateway - mutual TLS client identity authentication for devices and modules"
  | serve => "Start the gateway server (default)"
  | certificates => "Certificate tooling"
  | initAuthority => "Generate a self-signed root CA (`ca.crt` / `ca.key`)"
  | issueServer => "Issue the gateway's server certificate"
  | issueDevice => "Issue a device or module client certificate"
  | thumbprint => "Print the SHA-256 thumbprint of every certificate in a PEM file"
  | help => "Print this message or the help of the given subcommand(s)"

def children : Level → List Level
  | program => [serve, certificates, help]
  | certificates => [initAuthority, issueServer, issueDevice, thumbprint, help]
  | _ => []

def needsChild : Level → Bool
  | certificates => true
  | _ => false

def flags : Level → List Flag
  | program => [.help, .version]
  | _ => [.help]

/-! ### Parameters -/

def pathOr (default name : String) : Parameter :=
  { name, form := .path, default := some (.path (Utf8.encodeText default)) }

def daysOr (default : Nat) : Parameter :=
  { name := "days", form := .number (4294967296 - 1), default := some (.number default) }

def outDir : Parameter := { pathOr "tls" "out-dir" with letter := some 'o' }

def shared : List Parameter := [
  { name := "config", letter := some 'c', form := .path,
    variableName := some "EDGE_GATEWAY_CONFIG" },
  { name := "hub-name", variableName := some "EDGE_GATEWAY_HUB_NAME" },
  { name := "log-level", default := some (.text "info"),
    variableName := some "EDGE_GATEWAY_LOG_LEVEL" },
  { name := "log-format", variableName := some "EDGE_GATEWAY_LOG_FORMAT" }]

def own : Level → List Parameter
  | program => [
      { name := "port", letter := some 'p', form := .number (65536 - 1),
        variableName := some "EDGE_GATEWAY_PORT" },
      { name := "host", variableName := some "EDGE_GATEWAY_HOST" }]
  | initAuthority => [
      { name := "cn", default := some (.text "Edge Gateway Root CA") }, outDir, daysOr 3650]
  | issueServer => [
      pathOr "tls/ca.crt" "ca-cert", pathOr "tls/ca.key" "ca-key",
      { name := "cn", default := some (.text "localhost") },
      { name := "san-dns", default := some (.text "localhost"), isRepeatable := true }, outDir,
      { name := "name", default := some (.text "server") }, daysOr 365]
  | issueDevice => [
      pathOr "tls/ca.crt" "ca-cert", pathOr "tls/ca.key" "ca-key",
      { name := "device-id", isRequired := true }, { name := "module-id" }, outDir,
      { name := "name" }, daysOr 365]
  | thumbprint => [{ name := "file", form := .path, isOperand := true, isRequired := true }]
  | _ => []

/-- The parameters of a level; of the shared ones the first stands before those of the program. -/
def parameters : Level → List Parameter
  | program => shared.take 1 ++ program.own ++ shared.drop 1
  | l => l.own ++ shared

def child? (l : Level) (name : Bytes) : Option Level :=
  l.children.find? fun c => Utf8.encodeText c.name == name

def option? (l : Level) (name : String) : Option Parameter :=
  l.parameters.find? fun p => !p.isOperand && p.name == name

def shortOption? (l : Level) (letter : Char) : Option Parameter :=
  l.parameters.find? fun p => p.letter == some letter

def operand? (l : Level) : Option Parameter := l.parameters.find? (·.isOperand)

/-! ### Help -/

def helpEntry (left right : String) : String :=
  "  " ++ left ++ String.ofList (List.replicate (26 - left.length) ' ') ++ right

def optionEntry (p : Parameter) : String :=
  "  " ++ (match p.letter with
    | some c => "-" ++ String.singleton c ++ ", "
    | none => "    ") ++ p.shown

def flagEntry (f : Flag) : String :=
  helpEntry ("-" ++ String.singleton f.letter ++ ", --" ++ f.name) ("Print " ++ f.name)

def helpPage (l : Level) : List String :=
  [l.summary, "",
   "Usage: " ++ l.fullName ++ " [OPTIONS]"
     ++ (if l.children = [] then "" else if l.needsChild then " <COMMAND>" else " [COMMAND]")
     ++ (match l.operand? with
        | some p => " " ++ p.shown
        | none => "")]
  ++ (if l.children = [] then []
    else "" :: "Commands:" :: l.children.map fun c => helpEntry c.name c.summary)
  ++ "" :: "Options:" :: (l.parameters.filter (!·.isOperand)).map optionEntry
  ++ l.flags.map flagEntry

end Level
end DeviceGateway.CommandLine
