import DeviceGateway.Handshake.Verifier

/-!
# Accepting a connection

A transport serves one connection: it owns the verifier of that connection, if clients must present
certificates. The TLS library calls the verifier in any order and ends the handshake in any way;
then the transport settles whether there is a connection, and with which principal.
-/

namespace DeviceGateway

/-- How the clients of a listener are verified: what all connections share, and the TLS library's
own validation. -/
structure ClientGuard (σ τ : Type) where
  context : AuthContext σ
  base : BaseVerifier τ

structure Principal where
  outcome : AuthenticationOutcome
  deriving DecidableEq, Repr

def Principal.credential (p : Principal) : Option Credential := p.outcome.identity

/-- An established connection; there is a principal if clients must present certificates. -/
structure Connection where
  principal : Option Principal
  deriving DecidableEq, Repr

inductive HookCall where
  | verify (leaf : Bytes) (intermediates : List Bytes)
  | checkSignature (version : TlsVersion) (leaf : Bytes)
  deriving DecidableEq, Repr

/-- How a handshake ends; one that the TLS library does not take on is not started. -/
inductive HandshakeEnd where
  | unstarted (error : TlsError)
  | completed
  | failed (error : TlsError)
  | timedOut
  deriving DecidableEq, Repr

/-- The calls of the TLS library before the end of a handshake. -/
def HandshakeEnd.preceding (calls : List HookCall) : HandshakeEnd → List HookCall
  | unstarted _ => []
  | _ => calls

structure Transport where
  slot : Option VerifierSlot
  deriving DecidableEq, Repr

namespace Transport

variable {σ τ : Type}

def fresh (guarded : Bool) : Transport := ⟨if guarded then some .fresh else none⟩

/-- Why the client was refused, if it was. -/
def rejection (t : Transport) : Option RejectReason := t.slot.bind (·.rejection)

/-- Take the parked outcome and make a principal of it, if it succeeded. -/
def createPrincipal (t : Transport) : Option Principal × Transport :=
  match t.slot with
  | none => (none, t)
  | some s =>
    let (outcome, s) := s.takeOutcome
    ((outcome.filter (·.isSucceeded)).map Principal.mk, ⟨some s⟩)

def discard (t : Transport) : Transport := ⟨t.slot.map fun s => s.takeOutcome.2⟩

/-! ### During the handshake -/

/-- One call of the TLS library; without a guard it makes none. -/
def hook (guard : ClientGuard σ τ) (s : VerifierSlot) (w : σ × τ) : HookCall → Verifier.Step σ τ
  | .verify leaf intermediates =>
    Verifier.verify guard.context guard.base s leaf intermediates w
  | .checkSignature version leaf => Verifier.checkSignature guard.base s leaf w version

/-- The calls of a handshake in order. -/
def runHooks (guard : ClientGuard σ τ) : VerifierSlot → σ × τ → List HookCall →
    VerifierSlot × (σ × τ)
  | s, w, [] => (s, w)
  | s, w, call :: calls =>
    let r := hook guard s w call
    runHooks guard r.slot r.world calls

/-! ### After the handshake -/

def timeoutError (deadline : Duration) : GatewayError :=
  .handshake ("handshake timed out after " ++ deadline.shown)

def noPrincipalError : GatewayError :=
  .handshake "client certificate authentication produced no principal"

/-- What a handshake that has ended comes to. A recorded refusal explains a failure. -/
def settle (deadline : Duration) (t : Transport) :
    HandshakeEnd → Except GatewayError Connection × Transport
  | .unstarted e => (.error (.tls e), t)
  | .failed e =>
    let t := t.discard
    (.error (.handshake ((t.rejection.map (·.message)).getD e.message)), t)
  | .timedOut => (.error (timeoutError deadline), t.discard)
  | .completed =>
    let (principal, t) := t.createPrincipal
    if t.slot.isSome && principal.isNone then (.error noPrincipalError, t)
    else (.ok ⟨principal⟩, t)

/-- A whole handshake: the calls of the TLS library, then its end. -/
def accept (guard : Option (ClientGuard σ τ)) (deadline : Duration) (w : σ × τ)
    (calls : List HookCall) (ending : HandshakeEnd) :
    Except GatewayError Connection × Transport × (σ × τ) :=
  match guard with
  | none =>
    let (result, t) := (fresh false).settle deadline ending
    (result, t, w)
  | some g =>
    let (s, w) := runHooks g .fresh w (ending.preceding calls)
    let (result, t) := settle deadline ⟨some s⟩ ending
    (result, t, w)

end Transport
end DeviceGateway
