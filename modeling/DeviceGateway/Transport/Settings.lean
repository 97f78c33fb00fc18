import DeviceGateway.Authority.Bridge
import DeviceGateway.Certificate.Chain
import DeviceGateway.Config.Basic
import DeviceGateway.Log
import DeviceGateway.Signature.KeyReader

/-!
# Settings of connections

What all connections of a listener share: the address, the server's own certificate and key, and,
where clients must present certificates, what these are validated against. Settings are drafted
and then built, or made from a configuration and the files that it names.
-/

namespace DeviceGateway

/-- The server's certificate chain and the key that it proves its identity with. -/
structure ServerKey where
  chain : List Bytes
  key : SigningKey
  deriving DecidableEq, Repr

/-- A chain with its key; the chain's content does not count here. -/
def ServerKey.create (chain : List Bytes) (key : PrivateKey) : Except GatewayError ServerKey :=
  if chain.isEmpty then .error (.config "server certificate chain is empty")
  else
    match SigningKey.ofPrivateKey? .serving key with
    | some k => .ok ⟨chain, k⟩
    | none => .error (.config ("Unsupported server private key: "
        ++ (TlsError.general "failed to parse private key as RSA, ECDSA, or EdDSA").message))

/-- How clients are authenticated: the hub, what their chains are validated against, and the limits
of the bridge to the authority. -/
structure ClientAuth where
  hubName : String
  policy : ChainPolicy
  limits : BridgeLimits
  deriving DecidableEq, Repr

structure TransportSettings where
  scheme : String
  host : String
  port : UInt16
  handshakeTimeout : Duration
  serverKey : ServerKey
  clientAuth : Option ClientAuth
  deriving DecidableEq, Repr

/-- Settings that may still lack their key. -/
structure TransportDraft where
  scheme : String
  host : String
  port : UInt16
  handshakeTimeout : Duration := .ofSeconds 30
  serverKey : Option ServerKey := none
  clientAuth : Option ClientAuth := none
  deriving DecidableEq, Repr

def TransportDraft.build (d : TransportDraft) : Except GatewayError TransportSettings :=
  match d.serverKey with
  | none => .error (.config "server certificate is required")
  | some serverKey =>
    if Text.isBlank d.scheme || Text.isBlank d.host then
      .error (.config "scheme and host must not be empty")
    else if d.handshakeTimeout.isZero then .error (.config "handshake timeout must be > 0")
    else .ok {
      scheme := d.scheme
      host := d.host
      port := d.port
      handshakeTimeout := d.handshakeTimeout
      serverKey
      clientAuth := d.clientAuth }

namespace TransportSettings

def readyLog (s : TransportSettings) : Log :=
  [{ area := .settings, level := .info, message := "Transport settings ready",
     fields := [("scheme", s.scheme), ("host", s.host), ("port", .number s.port.toNat),
       ("client_cert_auth", .truth s.clientAuth.isSome)] }]

/-! ### From a configuration -/

def loadServerKey (files : FileTree) (c : TlsConfig) : Except GatewayError ServerKey := do
  let chain ← Material.loadCertificates files c.serverCert
  let key ← Material.loadPrivateKey files c.serverKey
  ServerKey.create chain key

/-- The revocation lists of a configuration, none if it names no file. -/
def loadLists (files : FileTree) (c : TlsConfig) : Except GatewayError (List Bytes) :=
  match c.crlPath with
  | some path => Material.loadRevocationLists files path
  | none => .ok []

def loadPolicy (files : FileTree) (c : TlsConfig) : Except GatewayError ChainPolicy :=
  match c.caCert with
  | none => .error (.config "tls.ca_cert is required for client certificate auth")
  | some path => do
    let lists ← loadLists files c
    let authorities ← Material.loadCertificates files path
    ChainPolicy.create authorities lists

def bridgeLimits (c : AuthConfig) : Except BridgeStartFault BridgeLimits :=
  BridgeLimits.create c.workerThreads.toNat c.maxInflight.toNat c.timeout

def loadClientAuth (files : FileTree) (c : Config) :
    Except BridgeStartFault (Option ClientAuth) :=
  if c.tls.clientCertAuth then do
    let policy ← (loadPolicy files c.tls).mapError .refused
    let limits ← bridgeLimits c.auth
    .ok (some ⟨c.auth.hubName, policy, limits⟩)
  else .ok none

def ofConfig (files : FileTree) (c : Config) : Except BridgeStartFault TransportSettings := do
  c.validate.mapError .refused
  let serverKey ← (loadServerKey files c.tls).mapError .refused
  let clientAuth ← loadClientAuth files c
  let draft : TransportDraft := {
    scheme := c.listener.scheme
    host := c.listener.host
    port := c.listener.port
    handshakeTimeout := c.listener.handshakeTimeout
    serverKey := some serverKey
    clientAuth }
  draft.build.mapError .refused

/-! ### What that logs -/

def policyLog (p : ChainPolicy) : Log :=
  [{ area := .chain, level := .debug, message := "Client chain verifier built",
     fields := [("crls", .number p.lists.length)] }]

def bridgeLog (l : BridgeLimits) : Log :=
  [{ area := .bridge, level := .debug, message := "Authentication bridge started",
     fields := [("worker_threads", .number l.workers),
       ("max_inflight", .number l.maxInflight), ("timeout", l.timeout.shown)] }]

/-- What loading the parts of client authentication logs, up to the first fault. -/
def clientAuthLog (files : FileTree) (c : Config) : Log :=
  if c.tls.clientCertAuth then
    match loadPolicy files c.tls with
    | .error _ => []
    | .ok policy =>
      policyLog policy ++
        match bridgeLimits c.auth with
        | .error _ => []
        | .ok limits => bridgeLog limits
  else []

/-- What making the settings of a configuration logs, up to the first fault. -/
def configLog (files : FileTree) (c : Config) : Log :=
  match c.validate, loadServerKey files c.tls with
  | .ok _, .ok _ =>
    clientAuthLog files c ++
      match ofConfig files c with
      | .error _ => []
      | .ok s => s.readyLog
  | _, _ => []

end TransportSettings
end DeviceGateway
