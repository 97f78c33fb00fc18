import DeviceGateway.Authority.Configured
import DeviceGateway.Transport.Settings

/-!
# The gateway

Everything that a configuration leads to: the authority and the settings of the connections.
-/

namespace DeviceGateway

structure Gateway where
  authority : Authority
  settings : TransportSettings
  deriving DecidableEq, Repr

namespace Gateway

def ofConfig (files : FileTree) (c : Config) : Except BridgeStartFault Gateway := do
  c.validate.mapError .refused
  let authority ← (Authority.ofConfig c.auth.authority).mapError .refused
  let settings ← TransportSettings.ofConfig files c
  .ok ⟨authority, settings⟩

/-- What making the gateway of a configuration logs, up to the first fault. -/
def configLog (files : FileTree) (c : Config) : Log :=
  match c.validate, Authority.ofConfig c.auth.authority with
  | .ok _, .ok authority => authority.choiceLog ++ TransportSettings.configLog files c
  | _, _ => []

end Gateway
end DeviceGateway
