import DeviceGateway.CommandLine.Reader
import DeviceGateway.Config.Basic

/-!
# Invocations

What the program is asked to do: a command, and the settings that go before the configuration.
-/

namespace DeviceGateway

open CommandLine

/-! ### Commands -/

structure AuthorityPaths where
  certificate : Bytes
  key : Bytes
  deriving DecidableEq, Repr

structure AuthorityOrder where
  name : String
  directory : Bytes
  days : UInt32
  deriving DecidableEq, Repr

structure ServerOrder where
  authority : AuthorityPaths
  name : String
  dnsNames : List String
  directory : Bytes
  stem : String
  days : UInt32
  deriving DecidableEq, Repr

structure DeviceOrder where
  authority : AuthorityPaths
  deviceId : String
  moduleId : Option String
  directory : Bytes
  stem : Option String
  days : UInt32
  deriving DecidableEq, Repr

inductive Command where
  | serve
  | initAuthority (order : AuthorityOrder)
  | issueServer (order : ServerOrder)
  | issueDevice (order : DeviceOrder)
  | thumbprint (file : Bytes)
  deriving DecidableEq, Repr

/-- The stem of the files of a device, or of a module after its device. -/
def DeviceOrder.fileStem (o : DeviceOrder) : String :=
  match o.stem, o.moduleId with
  | some stem, _ => stem
  | none, some moduleId => o.deviceId ++ "-" ++ moduleId
  | none, none => o.deviceId

/-! ### Invocations -/

structure Invocation where
  config : Option Bytes
  port : Option UInt16
  host : Option String
  hubName : Option String
  logLevel : String
  logFormat : Option String
  command : Option Command
  deriving DecidableEq, Repr

/-- What the levels of a command line were given, the deepest first. -/
abbrev CommandLine.Arguments := List Reading

namespace CommandLine.Arguments

def value? (a : Arguments) (name : String) : Option Value :=
  (settled? name a).bind fun g => g.values.getLast?

def text? (a : Arguments) (name : String) : Option String :=
  match a.value? name with
  | some (.text s) => some s
  | _ => none

def path? (a : Arguments) (name : String) : Option Bytes :=
  match a.value? name with
  | some (.path octets) => some octets
  | _ => none

def number? (a : Arguments) (name : String) : Option Nat :=
  match a.value? name with
  | some (.number n) => some n
  | _ => none

def texts (a : Arguments) (name : String) : List String :=
  match settled? name a with
  | none => []
  | some g => g.values.filterMap fun v =>
    match v with
    | .text s => some s
    | _ => none

def text (a : Arguments) (name : String) : String := (a.text? name).getD ""

def path (a : Arguments) (name : String) : Bytes := (a.path? name).getD []

def days (a : Arguments) : UInt32 := UInt32.ofNat ((a.number? "days").getD 0)

def authority (a : Arguments) : AuthorityPaths := ⟨a.path "ca-cert", a.path "ca-key"⟩

def commandOf (a : Arguments) : Level → Option Command
  | .serve => some .serve
  | .initAuthority => some (.initAuthority ⟨a.text "cn", a.path "out-dir", a.days⟩)
  | .issueServer =>
    some (.issueServer
      ⟨a.authority, a.text "cn", a.texts "san-dns", a.path "out-dir", a.text "name", a.days⟩)
  | .issueDevice =>
    some (.issueDevice ⟨a.authority, a.text "device-id", a.text? "module-id",
      a.path "out-dir", a.text? "name", a.days⟩)
  | .thumbprint => some (.thumbprint (a.path "file"))
  | _ => none

def command? : Arguments → Option Command
  | [] => none
  | r :: above => commandOf (r :: above) r.level

end CommandLine.Arguments

namespace Invocation

def ofArguments (a : Arguments) : Invocation where
  config := a.path? "config"
  port := (a.number? "port").map UInt16.ofNat
  host := a.text? "host"
  hubName := a.text? "hub-name"
  logLevel := a.text "log-level"
  logFormat := a.text? "log-format"
  command := a.command?

def read (environment : List (String × String)) (args : List Bytes) : Except Reply Invocation :=
  (readLevels environment args).map ofArguments

def override (i : Invocation) (c : Config) : Config :=
  { c with
    listener := { c.listener with
      port := i.port.getD c.listener.port
      host := i.host.getD c.listener.host }
    auth := { c.auth with hubName := i.hubName.getD c.auth.hubName } }

end Invocation
end DeviceGateway
