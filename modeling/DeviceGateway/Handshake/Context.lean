import DeviceGateway.Authority.Bridge
import DeviceGateway.Credential

/-!
# What all connections share

The hub that the gateway serves, the factory of credentials, and the way the authority is asked.
The authority and the bridge to it live in a world of any type, which a consultation may change.
-/

namespace DeviceGateway

/-- What comes back from a consultation: a fault if no permit was got before the deadline, and else
what came of asking the authority. -/
inductive Delivery where
  | unheard (error : GatewayError)
  | heard (result : Except GatewayError Bool)

namespace Delivery

def result : Delivery → Except GatewayError Bool
  | unheard e => .error e
  | heard r => r

/-- What a bridge hands back: the answer of a task, or an error of the call. -/
def ofCall (asked : Bool) : Except GatewayError (Except GatewayError Bool) → Delivery
  | .ok answer => .heard answer
  | .error e => if asked then .heard (.error e) else .unheard e

end Delivery

/-- What is shared by all connections; `σ` is the world behind the authority. -/
structure AuthContext (σ : Type) where
  hubName : String
  factory : CredentialFactory
  consult : Credential → σ → Delivery × σ

inductive AuthorityEnd where
  | verdict (accepted : Bool)
  | fault (error : GatewayError)
  | panics
  | hangs
  | panicsWhenDropped

def AuthorityEnd.task : AuthorityEnd → PoolTask (Except GatewayError Bool)
  | verdict b => .returns (.ok b)
  | fault e => .returns (.error e)
  | panics => .panics
  | hangs => .hangs
  | panicsWhenDropped => .panicsWhenDropped

structure BridgedWorld (σ : Type) where
  pool : Pool (Except GatewayError Bool)
  authority : σ

variable {σ : Type}

/-- Ask an authority over a bridge amid other calls: it is asked if the call gets a permit. -/
def consultAmid (traffic : Credential → BridgedWorld σ → Traffic (Except GatewayError Bool))
    (deadline : Duration) (ask : Credential → σ → AuthorityEnd × σ) (c : Credential)
    (w : BridgedWorld σ) : Delivery × BridgedWorld σ :=
  let permitted := w.pool.permits deadline (traffic c w)
  let (ending, authority) := if permitted then ask c w.authority else (.hangs, w.authority)
  let (result, pool) := w.pool.performAmid deadline (traffic c w) ending.task
  (.ofCall permitted result, ⟨pool, authority⟩)

/-- Ask an authority over a bridge that no other call uses meanwhile. -/
def consultOver (deadline : Duration) (ask : Credential → σ → AuthorityEnd × σ)
    (c : Credential) (w : BridgedWorld σ) : Delivery × BridgedWorld σ :=
  consultAmid (fun _ _ => {}) deadline ask c w

end DeviceGateway
