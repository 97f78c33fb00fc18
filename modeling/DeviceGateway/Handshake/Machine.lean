import DeviceGateway.Certificate.Reader
import DeviceGateway.Handshake.Context
import DeviceGateway.Log

/-!
# The authentication machine of one connection

A machine walks one path: the presented chain is captured, the leaf is parsed, the policy is
applied, a credential is built and the authority is asked. It ends authenticated or rejected. A
step out of order rejects. Every transition is logged.
-/

namespace DeviceGateway

structure Chain where
  leaf : Bytes
  intermediates : List Bytes
  deriving DecidableEq, Repr

def Chain.toList (c : Chain) : List Bytes := c.leaf :: c.intermediates

inductive HandshakeState where
  | idle
  | chainCaptured (chain : Chain)
  | identityParsed (chain : Chain) (identity : ClaimedIdentity)
  | validated (chain : Chain) (identity : ValidatedIdentity)
  | credentialBuilt (credential : Credential)
  | authenticating
  | authenticated (credential : Credential)
  | rejected (reason : RejectReason)
  deriving DecidableEq, Repr

namespace HandshakeState

def name : HandshakeState → String
  | idle => "idle"
  | chainCaptured _ => "chain_captured"
  | identityParsed _ _ => "identity_parsed"
  | validated _ _ => "validated"
  | credentialBuilt _ => "credential_built"
  | authenticating => "authenticating"
  | authenticated _ => "authenticated"
  | rejected _ => "rejected"

/-- Whether nothing further happens by itself. -/
def isTerminal : HandshakeState → Bool
  | authenticated _ => true
  | rejected _ => true
  | _ => false

def isAuthenticated : HandshakeState → Bool
  | authenticated _ => true
  | _ => false

/-- Why the handshake must fail, once it must. -/
def rejection : HandshakeState → Option RejectReason
  | rejected r => some r
  | _ => none

/-- How many steps may be left until the end. -/
def stepsLeft : HandshakeState → Nat
  | chainCaptured _ => 4
  | identityParsed _ _ => 3
  | validated _ _ => 2
  | credentialBuilt _ => 1
  | idle => 1
  | authenticating => 1
  | authenticated _ => 0
  | rejected _ => 0

end HandshakeState

/-- The result of one handshake: the authenticated credential, or a failure. -/
structure AuthenticationOutcome where
  identity : Option Credential
  deriving DecidableEq, Repr

namespace AuthenticationOutcome

def failed : AuthenticationOutcome := ⟨none⟩

def succeeded (c : Credential) : AuthenticationOutcome := ⟨some c⟩

def isSucceeded (o : AuthenticationOutcome) : Bool := o.identity.isSome

end AuthenticationOutcome

structure Machine where
  state : HandshakeState
  log : Log
  deriving DecidableEq, Repr

namespace Machine

def fresh : Machine := ⟨.idle, []⟩

/-- The event of entering a state from the state of the given name. -/
def transitionEvent (source : String) : HandshakeState → LogEvent
  | .rejected r => { area := .handshake, level := .warn,
                     message := "Client authentication rejected",
                     fields := [("from", .literal source), ("reason", r.message)] }
  | next => { area := .handshake, level := .debug, message := "Handshake state",
              fields := [("from", .literal source), ("to", .literal next.name)] }

/-- Enter a state; the source is the present one. -/
def enter (m : Machine) (next : HandshakeState) : Machine :=
  ⟨next, m.log ++ [transitionEvent m.state.name next]⟩

def note (m : Machine) (events : Log) : Machine := { m with log := m.log ++ events }

@[simp] theorem enter_state (m : Machine) (next : HandshakeState) :
    (m.enter next).state = next := rfl

@[simp] theorem note_state (m : Machine) (events : Log) : (m.note events).state = m.state := rfl

/-- The state after capturing a chain; a missing or empty leaf is no certificate. -/
def captured (leaf : Option Bytes) (intermediates : List Bytes) : HandshakeState :=
  match leaf with
  | none => .rejected .noCertificate
  | some l => if l.isEmpty then .rejected .noCertificate else .chainCaptured ⟨l, intermediates⟩

/-- Take the presented chain. Only an idle machine can. -/
def capture (m : Machine) (leaf : Option Bytes) (intermediates : List Bytes) : Machine :=
  match m.state with
  | .idle => m.enter (captured leaf intermediates)
  | _ => m.enter (.rejected .outOfOrder)

theorem capture_of_idle (m : Machine) (leaf : Option Bytes) (intermediates : List Bytes)
    (h : m.state = .idle) :
    m.capture leaf intermediates = m.enter (captured leaf intermediates) := by
  simp only [capture, h]

theorem capture_of_ne_idle (m : Machine) (leaf : Option Bytes) (intermediates : List Bytes)
    (h : m.state ≠ .idle) :
    m.capture leaf intermediates = m.enter (.rejected .outOfOrder) := by
  unfold capture
  split
  · next hi => exact (h hi).elim
  · rfl

def parseLog (leaf : Bytes) : Log :=
  if (Certificate.readSubject? leaf).isSome then []
  else [{ area := .subject, level := .debug,
          message := "Client certificate is not parseable, identity left empty" }]

def judged (hub : String) (chain : Chain) (claimed : ClaimedIdentity) : HandshakeState :=
  match claimed.validate hub with
  | .ok v => .validated chain v
  | .error r => .rejected r

def credentialRequest (chain : Chain) (v : ValidatedIdentity) : CredentialRequest where
  deviceId := v.deviceId
  moduleId := v.moduleId
  clientType := ""
  certificate := chain.leaf
  chain := chain.toList

def built (factory : CredentialFactory) (chain : Chain) (v : ValidatedIdentity) : HandshakeState :=
  match factory (credentialRequest chain v) with
  | .ok c => .credentialBuilt c
  | .error e => .rejected (.credentialBuild e.message)

/-- The state after asking the authority. -/
def decided (c : Credential) : Except GatewayError Bool → HandshakeState
  | .ok true => .authenticated c
  | .ok false => .rejected .authenticatorDenied
  | .error e => .rejected (.authenticatorFault e.message)

/-- What asking the authority logs: an error that is no fault of the authority. -/
def consultLog : Except GatewayError Bool → Log
  | .ok _ => []
  | .error e =>
    if e.isAuthenticationFault then []
    else [{ area := .handshake, level := .error, message := "Authentication bridge failed",
            fields := [("error", e.message)] }]

variable {σ : Type}

/-- The next transition. A terminal state stays. -/
def advance (ctx : AuthContext σ) (m : Machine) (w : σ) : Machine × σ :=
  match m.state with
  | .chainCaptured chain =>
    ((m.note (parseLog chain.leaf)).enter
      (.identityParsed chain (Certificate.identityOf chain.leaf)), w)
  | .identityParsed chain claimed => (m.enter (judged ctx.hubName chain claimed), w)
  | .validated chain v => (m.enter (built ctx.factory chain v), w)
  | .credentialBuilt c =>
    let (delivery, w) := ctx.consult c w
    ((m.note (consultLog delivery.result)).enter (decided c delivery.result), w)
  | .idle => (m.enter (.rejected .outOfOrder), w)
  | .authenticating => (m.enter (.rejected .outOfOrder), w)
  | .authenticated _ => (m, w)
  | .rejected _ => (m, w)

/-- At most the given number of transitions, until the end. -/
def settle (ctx : AuthContext σ) : Nat → Machine → σ → Machine × σ
  | 0, m, w => (m, w)
  | n + 1, m, w =>
    if m.state.isTerminal then (m, w)
    else
      let (m, w) := m.advance ctx w
      settle ctx n m w

/-- Take the presented chain and go on to the end. -/
def run (ctx : AuthContext σ) (m : Machine) (leaf : Option Bytes) (intermediates : List Bytes)
    (w : σ) : Machine × σ :=
  let m := m.capture leaf intermediates
  settle ctx m.state.stepsLeft m w

def reject (m : Machine) (reason : RejectReason) : Machine := m.enter (.rejected reason)

def outcome (m : Machine) : AuthenticationOutcome :=
  match m.state with
  | .authenticated c => .succeeded c
  | _ => .failed

theorem outcome_eq_succeeded_iff (m : Machine) (c : Credential) :
    m.outcome = .succeeded c ↔ m.state = .authenticated c := by
  unfold outcome
  split
  · next d hd => simp [hd, AuthenticationOutcome.succeeded]
  · next hd => simpa [AuthenticationOutcome.succeeded, AuthenticationOutcome.failed] using hd c

theorem outcome_eq_failed_iff (m : Machine) :
    m.outcome = .failed ↔ ∀ c, m.state ≠ .authenticated c := by
  unfold outcome
  split
  · next d hd => simp [hd, AuthenticationOutcome.succeeded, AuthenticationOutcome.failed]
  · next hd => simpa using hd

inductive Op where
  | capture (leaf : Option Bytes) (intermediates : List Bytes)
  | advance
  | run (leaf : Option Bytes) (intermediates : List Bytes)
  | reject (reason : RejectReason)
  deriving DecidableEq, Repr

def apply (ctx : AuthContext σ) (s : Machine × σ) : Op → Machine × σ
  | .capture leaf intermediates => (s.1.capture leaf intermediates, s.2)
  | .advance => s.1.advance ctx s.2
  | .run leaf intermediates => s.1.run ctx leaf intermediates s.2
  | .reject reason => (s.1.reject reason, s.2)

def applyAll (ctx : AuthContext σ) (s : Machine × σ) (ops : List Op) : Machine × σ :=
  ops.foldl (apply ctx) s

end Machine
end DeviceGateway
