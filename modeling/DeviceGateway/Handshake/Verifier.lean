import DeviceGateway.Handshake.Machine

/-!
# The certificate hook of one connection

The hook drives the connection's machine and then the chain validation of the TLS library, and
parks the outcome until it is taken. A failed signature replaces what is parked. Each hook call
consists of steps that touch the slot at once; the authority and the chain validation run between
them, so calls may overlap.
-/

namespace DeviceGateway

inductive TlsVersion where
  | tls12
  | tls13
  deriving DecidableEq, Repr

/-- The TLS library's own validation; `τ` is the world behind it, with the time and what is
signed. -/
structure BaseVerifier (τ : Type) where
  validateChain : Bytes → List Bytes → τ → Except TlsError Unit × τ
  checkSignature : TlsVersion → Bytes → τ → Except TlsError Unit × τ
  hints : List Bytes
  schemes : List Nat

/-- The machine until it is used, the parked outcome, and the reason of a refusal. -/
structure VerifierSlot where
  machine : Option Machine
  outcome : Option AuthenticationOutcome
  rejection : Option RejectReason
  deriving DecidableEq, Repr

namespace VerifierSlot

def fresh : VerifierSlot := ⟨some .fresh, none, none⟩

/-! ### Steps that touch the slot at once -/

def takeMachine (s : VerifierSlot) : Option Machine × VerifierSlot :=
  (s.machine, { s with machine := none })

/-- A call that finds no machine is refused. -/
def refuseRepeat (s : VerifierSlot) : VerifierSlot :=
  { s with rejection := some .outOfOrder, outcome := some .failed }

def finish (s : VerifierSlot) (m : Machine) : VerifierSlot :=
  { s with rejection := m.state.rejection, outcome := some m.outcome }

/-- Drop what is parked after a failed signature. -/
def discard (s : VerifierSlot) (e : TlsError) : VerifierSlot :=
  { s with outcome := some .failed, rejection := some (.certificateInvalid e.message) }

def takeOutcome (s : VerifierSlot) : Option AuthenticationOutcome × VerifierSlot :=
  (s.outcome, { s with outcome := none })

end VerifierSlot

def discardLog (e : TlsError) : Log :=
  [{ area := .verifier, level := .warn,
     message := "Client signature rejected; authenticated identity discarded",
     fields := [("error", e.message)] }]

namespace Verifier

/-- A client is always asked for a certificate. -/
def offersClientAuth : Bool := true

/-- A client without a certificate is refused. -/
def requiresClientAuth : Bool := true

variable {σ τ : Type}

/-- What happens between taking a machine and parking what it came to: the machine runs, and the
chain is validated if the machine authenticated. -/
def examine (ctx : AuthContext σ) (base : BaseVerifier τ) (m : Machine) (leaf : Bytes)
    (intermediates : List Bytes) (w : σ × τ) : Except TlsError Unit × Machine × (σ × τ) :=
  let (m, v) := m.run ctx (some leaf) intermediates w.1
  if m.state.isAuthenticated then
    let (answer, t) := base.validateChain leaf intermediates w.2
    match answer with
    | .ok _ => (.ok (), m, (v, t))
    | .error e => (.error e, m.reject (.certificateInvalid e.message), (v, t))
  else (.error .refused, m, (v, w.2))

/-- The answer of a hook call, the slot and the world after it, and what it logged. -/
structure Step (σ τ : Type) where
  answer : Except TlsError Unit
  slot : VerifierSlot
  world : σ × τ
  log : Log

def verify (ctx : AuthContext σ) (base : BaseVerifier τ) (s : VerifierSlot) (leaf : Bytes)
    (intermediates : List Bytes) (w : σ × τ) : Step σ τ :=
  match s.takeMachine with
  | (none, s) => ⟨.error .refused, s.refuseRepeat, w, []⟩
  | (some m, s) =>
    let (answer, after, w) := examine ctx base m leaf intermediates w
    ⟨answer, s.finish after, w, after.log.drop m.log.length⟩

def checkSignature (base : BaseVerifier τ) (s : VerifierSlot) (leaf : Bytes) (w : σ × τ)
    (version : TlsVersion := .tls13) : Step σ τ :=
  let (answer, t) := base.checkSignature version leaf w.2
  match answer with
  | .ok _ => ⟨.ok (), s, (w.1, t), []⟩
  | .error e => ⟨.error e, s.discard e, (w.1, t), discardLog e⟩

inductive Op where
  | verify (leaf : Bytes) (intermediates : List Bytes)
  | checkSignature (version : TlsVersion) (leaf : Bytes)
  | takeOutcome
  deriving DecidableEq, Repr

inductive Result where
  | answer (answer : Except TlsError Unit)
  | outcome (outcome : Option AuthenticationOutcome)

def apply (ctx : AuthContext σ) (base : BaseVerifier τ) (s : VerifierSlot) (w : σ × τ) :
    Op → Result × VerifierSlot × (σ × τ)
  | .verify leaf intermediates =>
    let r := verify ctx base s leaf intermediates w
    (.answer r.answer, r.slot, r.world)
  | .checkSignature version leaf =>
    let r := checkSignature base s leaf w version
    (.answer r.answer, r.slot, r.world)
  | .takeOutcome => let (o, s) := s.takeOutcome; (.outcome o, s, w)

def applyAll (ctx : AuthContext σ) (base : BaseVerifier τ) :
    VerifierSlot → σ × τ → List Op → List Result × VerifierSlot × (σ × τ)
  | s, w, [] => ([], s, w)
  | s, w, op :: ops =>
    let (r, s, w) := apply ctx base s w op
    let (rs, s, w) := applyAll ctx base s w ops
    (r :: rs, s, w)

end Verifier
end DeviceGateway
