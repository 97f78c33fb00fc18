import DeviceGateway.Authority.Registry
import DeviceGateway.Url.Address

/-!
# Configuration

What the gateway is told at its start: where it listens, which files hold its TLS material, and
how clients are authenticated. A configuration is validated before anything is built from it; the
first invalid setting is named.
-/

namespace DeviceGateway

structure ListenerConfig where
  scheme : String
  host : String
  port : UInt16
  handshakeTimeout : Duration
  deriving DecidableEq, Repr

structure TlsConfig where
  serverCert : String
  serverKey : String
  caCert : Option String
  crlPath : Option String
  clientCertAuth : Bool
  deriving DecidableEq, Repr

inductive AuthorityConfig where
  | registry (identities : List RegisteredIdentity)
  | remote (url : String)
  deriving DecidableEq, Repr

structure AuthConfig where
  hubName : String
  timeout : Duration
  maxInflight : UInt64
  workerThreads : UInt64
  authority : AuthorityConfig
  deriving DecidableEq, Repr

structure Config where
  listener : ListenerConfig
  tls : TlsConfig
  auth : AuthConfig
  deriving DecidableEq, Repr

/-! ### Defaults -/

def ListenerConfig.default : ListenerConfig := ⟨"amqps", "0.0.0.0", 5671, .ofSeconds 30⟩

def TlsConfig.default : TlsConfig := ⟨"", "", none, none, true⟩

def AuthorityConfig.default : AuthorityConfig := .registry []

def AuthConfig.default : AuthConfig := ⟨"", .ofSeconds 10, 64, 2, .default⟩

def Config.default : Config := ⟨.default, .default, .default⟩

/-! ### Validation -/

def requireText (value name : String) : Except GatewayError Unit :=
  if Text.isBlank value then .error (.config (name ++ " must not be empty")) else .ok ()

def requireThat (holds : Bool) (text : String) : Except GatewayError Unit :=
  if holds then .ok () else .error (.config text)

def ListenerConfig.validate (c : ListenerConfig) : Except GatewayError Unit := do
  requireText c.scheme "listener.scheme"
  requireText c.host "listener.host"
  requireThat (c.port ≠ 0) "listener.port must be > 0"
  requireThat (!c.handshakeTimeout.isZero) "listener.handshake_timeout must be > 0"

def TlsConfig.validate (c : TlsConfig) : Except GatewayError Unit := do
  requireText c.serverCert "tls.server_cert"
  requireText c.serverKey "tls.server_key"
  requireThat (!(c.clientCertAuth && c.caCert.all Text.isBlank))
    "tls.ca_cert is required when tls.client_cert_auth is enabled"

def AuthorityConfig.validate : AuthorityConfig → Except GatewayError Unit
  | .registry identities =>
    identities.forM fun e => requireText e.deviceId "auth.authenticator.identities[].device_id"
  | .remote url =>
    match Url.parse url with
    | .error f =>
      .error (.config ("auth.authenticator.url '" ++ url ++ "' is invalid: " ++ f.message))
    | .ok a => requireThat a.isHttp
      ("auth.authenticator.url must be http or https, got '" ++ a.scheme ++ "'")

def AuthConfig.validate (c : AuthConfig) : Except GatewayError Unit := do
  requireText c.hubName "auth.hub_name"
  requireThat (!c.timeout.isZero) "auth.timeout must be > 0"
  requireThat (c.maxInflight ≠ 0) "auth.max_inflight must be > 0"
  requireThat (c.workerThreads ≠ 0) "auth.worker_threads must be > 0"
  c.authority.validate

def Config.validate (c : Config) : Except GatewayError Unit := do
  c.listener.validate
  c.tls.validate
  c.auth.validate

end DeviceGateway
