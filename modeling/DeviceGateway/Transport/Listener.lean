import DeviceGateway.Transport.Connection
import DeviceGateway.Transport.Settings

/-!
# The listener

A listener takes events one at a time: sockets, handshakes that end, handlers that end, tasks that
crash, and the shutdown channel. Every socket gets a task of its own. Whatever happens to a task,
the listener goes on; only the shutdown channel ends it. Its tasks are aborted then, but until that
has come to them they may still go on.
-/

namespace DeviceGateway

/-! ### Binding -/

structure Network where
  /-- Whether a host can be listened on. -/
  isLocal : String → Bool
  /-- Whether a port is in use. -/
  isTaken : UInt16 → Bool

/-- A machine with no addresses but its own, all ports of which are in use or none. -/
def Network.loopback (isTaken : Bool) : Network where
  isLocal := fun host =>
    ["0.0.0.0", "localhost", "::", "::1"].contains host || "127.".toList.isPrefixOf host.toList
  isTaken := fun _ => isTaken

inductive BindFault where
  | notLocal
  | taken
  deriving DecidableEq, Repr

def BindFault.message : BindFault → String
  | .notLocal => "Cannot assign requested address (os error 99)"
  | .taken => "Address already in use (os error 98)"

def TransportSettings.bind (s : TransportSettings) (network : Network) : Except GatewayError Unit :=
  if !network.isLocal s.host then .error (.io BindFault.notLocal.message)
  else if network.isTaken s.port then .error (.io BindFault.taken.message)
  else .ok ()

/-! ### Events -/

inductive ShutdownEvent where
  | signal
  | lagged
  | closed
  deriving DecidableEq, Repr

def ShutdownEvent.result : ShutdownEvent → Except GatewayError Unit
  | .signal => .ok ()
  | .lagged => .ok ()
  | .closed => .error .shutdown

inductive HandlerEnd where
  | finished
  | failed (error : GatewayError)
  | panicked
  deriving DecidableEq, Repr

/-- What a listener sees; tasks are numbered in the order of their sockets. A task crashes if it
panics or is aborted, during its handshake or later. -/
inductive ListenerEvent where
  | accepted
  | acceptFailed (error : String)
  | handshaken (task : Nat) (calls : List HookCall) (ending : HandshakeEnd)
  | handled (task : Nat) (ending : HandlerEnd)
  | crashed (task : Nat)
  | shutdown (event : ShutdownEvent)
  deriving DecidableEq, Repr

def ListenerEvent.ofTask : ListenerEvent → Bool
  | handshaken _ _ _ => true
  | handled _ _ => true
  | crashed _ => true
  | _ => false

inductive ListenerTask where
  | handshaking
  | handling (connection : Connection)
  | dropped (error : GatewayError)
  | ended
  deriving DecidableEq, Repr

def ListenerTask.isOpen : ListenerTask → Bool
  | handshaking => true
  | handling _ => true
  | _ => false

/-- A listener: its tasks, the connections handed over so far with their tasks, latest first, the
world behind the verifiers, and how it ended, if it did. -/
structure Listener (ω : Type) where
  tasks : List ListenerTask
  handedOver : List (Nat × Connection)
  world : ω
  result : Option (Except GatewayError Unit)

namespace Listener

variable {σ τ : Type}

def start {ω : Type} (world : ω) : Listener ω := ⟨[], [], world, none⟩

def setTask {ω : Type} (l : Listener ω) (n : Nat) (t : ListenerTask) : Listener ω :=
  { l with tasks := l.tasks.set n t }

def serveEvent (guard : Option (ClientGuard σ τ)) (deadline : Duration)
    (l : Listener (σ × τ)) : ListenerEvent → Listener (σ × τ)
  | .accepted => { l with tasks := l.tasks ++ [.handshaking] }
  | .acceptFailed _ => l
  | .handshaken n calls ending =>
    match l.tasks[n]? with
    | some .handshaking =>
      let (result, _, world) := Transport.accept guard deadline l.world calls ending
      let l := { l with world }
      match result with
      | .ok c => { (l.setTask n (.handling c)) with handedOver := (n, c) :: l.handedOver }
      | .error e => l.setTask n (.dropped e)
    | _ => l
  | .handled n _ =>
    match l.tasks[n]? with
    | some (.handling _) => l.setTask n .ended
    | _ => l
  | .crashed n =>
    match l.tasks[n]? with
    | some t => if t.isOpen then l.setTask n .ended else l
    | none => l
  | .shutdown e => { l with result := some e.result }

/-- One event; a listener that has ended sees only those of its tasks. -/
def step (guard : Option (ClientGuard σ τ)) (deadline : Duration) (l : Listener (σ × τ))
    (event : ListenerEvent) : Listener (σ × τ) :=
  if l.result.isSome && !event.ofTask then l else l.serveEvent guard deadline event

def run (guard : Option (ClientGuard σ τ)) (deadline : Duration) (l : Listener (σ × τ))
    (events : List ListenerEvent) : Listener (σ × τ) :=
  events.foldl (step guard deadline) l

/-! ### What that logs -/

def boundLog (s : TransportSettings) : Log :=
  [{ area := .listener, level := .info, message := "Listening",
     fields := [("scheme", .literal s.scheme),
       ("addr", s.host ++ ":" ++ Text.natText s.port.toNat)] }]

def stopLog (openConnections : Nat) : Log :=
  [{ area := .listener, level := .info, message := "Listener stopping",
     fields := [("open", .number openConnections)] }]

def signalLog : Log :=
  [{ area := .server, level := .info, message := "Shutdown signal received" }]

end Listener
end DeviceGateway
