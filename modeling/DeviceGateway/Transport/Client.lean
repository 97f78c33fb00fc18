import DeviceGateway.Certificate.Chain
import DeviceGateway.Transport.Connection
import DeviceGateway.Transport.Hello
import DeviceGateway.Transport.Listener

/-!
# What clients do

A client either speaks TLS, with or without certificates, or sends octets of its own. The order in
which the TLS library then calls the verifier, and how it ends the handshake, follow from that.
-/

namespace DeviceGateway

structure ClientProof where
  message : Bytes
  algorithm : Bytes
  signature : Bytes
  deriving DecidableEq, Repr

/-- The schemes of signatures that are taken, the most preferred first. -/
def signatureSchemes : List Nat :=
  [0x0603, 0x0503, 0x0403, 0x0807, 0x0806, 0x0805, 0x0804, 0x0601, 0x0501, 0x0401]

namespace ClientAuth

/-- The TLS library's own validation at a time: the chain against the policy, and a signature
against the leaf's key. -/
def baseVerifier (a : ClientAuth) (now : Calendar.Instant) : BaseVerifier ClientProof where
  validateChain := fun leaf intermediates proof =>
    ((a.policy.validate now leaf intermediates).mapError .invalidCertificate, proof)
  checkSignature := fun _ leaf proof =>
    let signed : Bool := match Certificate.Record.ofDer? leaf with
      | none => false
      | some r => isSignedBy r.publicKey proof.algorithm proof.message proof.signature
    (if signed then .ok () else .error (.invalidCertificate .badSignature), proof)
  hints := a.policy.anchors.map (·.subject)
  schemes := signatureSchemes

def guard {σ : Type} (a : ClientAuth) (now : Calendar.Instant)
    (ask : Credential → σ → AuthorityEnd × σ) : ClientGuard (BridgedWorld σ) ClientProof where
  context := ⟨a.hubName, x509Factory a.hubName, consultOver a.limits.timeout ask⟩
  base := a.baseVerifier now

end ClientAuth

namespace TransportSettings

def guard {σ : Type} (s : TransportSettings) (now : Calendar.Instant)
    (ask : Credential → σ → AuthorityEnd × σ) : Option (ClientGuard (BridgedWorld σ) ClientProof) :=
  s.clientAuth.map fun a => a.guard now ask

/-- The world of settings before the first connection. -/
def freshWorld {σ : Type} (s : TransportSettings) (authority : σ) : BridgedWorld σ :=
  ⟨.create ((s.clientAuth.map (·.limits.maxInflight)).getD 1), authority⟩

end TransportSettings

inductive Client where
  | octets (sent : Bytes)
  | anonymous
  | certified (leaf : Bytes) (intermediates : List Bytes) (proof : ClientProof)
  deriving DecidableEq, Repr

namespace Client

variable {σ τ : Type}

/-- The calls and the end of a handshake with certificates: validation, then the signature, each
only if all before it was accepted. -/
def certifiedCalls (g : ClientGuard σ τ) (leaf : Bytes) (intermediates : List Bytes) (w : σ × τ) :
    List HookCall × HandshakeEnd :=
  let first := HookCall.verify leaf intermediates
  let r := Transport.hook g .fresh w first
  match r.answer with
  | .error e => ([first], .failed e)
  | .ok _ =>
    let second := HookCall.checkSignature .tls13 leaf
    match (Transport.hook g r.slot r.world second).answer with
    | .error e => ([first, second], .failed e)
    | .ok _ => ([first, second], .completed)

/-- What the TLS library calls for a client, and how it ends the handshake. -/
def calls (guard : Option (ClientGuard σ τ)) (w : σ × τ) : Client → List HookCall × HandshakeEnd
  | .octets sent =>
    match Hello.judge sent with
    | some e => ([], .failed e)
    | none => ([], .timedOut)
  | .anonymous => ([], if guard.isSome then .failed .noCertificatesPresented else .completed)
  | .certified leaf intermediates _ =>
    match guard with
    | none => ([], .completed)
    | some g => certifiedCalls g leaf intermediates w

/-- The proof of a client, an empty one without certificates. -/
def proof : Client → ClientProof
  | .certified _ _ proof => proof
  | _ => ⟨[], [], []⟩

def connect (guard : Option (ClientGuard σ ClientProof)) (deadline : Duration) (client : Client)
    (w : σ) : Except GatewayError Connection × Transport × σ :=
  let (calls, ending) := client.calls guard (w, client.proof)
  let (result, t, w) := Transport.accept guard deadline (w, client.proof) calls ending
  (result, t, w.1)

/-- What a listener sees of a client that comes and whose handler ends. -/
def events (guard : Option (ClientGuard σ ClientProof)) (l : Listener (σ × ClientProof))
    (handler : HandlerEnd) (client : Client) : List ListenerEvent :=
  let (calls, ending) := client.calls guard l.world
  let n := l.tasks.length
  [.accepted, .handshaken n calls ending, .handled n handler]

/-- A listener after clients that come and go one after another. -/
def serveAll (guard : Option (ClientGuard σ ClientProof)) (deadline : Duration)
    (handler : HandlerEnd) (l : Listener (σ × ClientProof)) (clients : List Client) :
    Listener (σ × ClientProof) :=
  clients.foldl (fun l client =>
    let l : Listener (σ × ClientProof) := { l with world := (l.world.1, client.proof) }
    l.run guard deadline (client.events guard l handler)) l

end Client
end DeviceGateway
