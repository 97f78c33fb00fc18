import DeviceGateway.Authority.Remote
import DeviceGateway.Config.Basic

/-!
# The configured authority

The authority that a configuration names, and what choosing it logs.
-/

namespace DeviceGateway

inductive Authority where
  | registry (registry : Registry)
  | remote (authority : RemoteAuthority)
  deriving DecidableEq, Repr

namespace Authority

def ofConfig : AuthorityConfig → Except GatewayError Authority
  | .registry identities => .ok (.registry (.ofEntries identities))
  | .remote url => (RemoteAuthority.create url).map .remote

def choiceLog : Authority → Log
  | registry r =>
    { area := .server, level := .info, message := "Using identity registry",
      fields := [("identities", .number r.size)] } ::
    (if r.isEmpty then
      [{ area := .server, level := .warn,
         message := "Identity registry is empty, every client will be denied" }]
    else [])
  | remote a => [{ area := .server, level := .info, message := "Using remote identity authority",
                   fields := [("endpoint", a.endpoint.text)] }]

end Authority
end DeviceGateway
