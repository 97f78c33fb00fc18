import DeviceGateway.Config.Basic
import DeviceGateway.Shape.Tree

/-!
# Configurations as structured data

A configuration is read from a tree, every setting that is not given keeping its default, and
written as a JSON value with every setting given.
-/

namespace DeviceGateway

open Shape

section Reading

variable {τ : Type}

def readDuration (mode : Mode) : Reader τ Duration := fun t => do
  let s ← readText mode t
  match Duration.read s with
  | .ok d => .ok d
  | .error f => failAt t (.custom f.message)

def RegisteredIdentity.fields (mode : Mode) : List (RecordField τ RegisteredIdentity) := [
  ("device_id", fun e t => return { e with deviceId := ← readText mode t }),
  ("module_id", fun e t => return { e with moduleId := ← readOptional (readText mode) t }),
  ("thumbprints", fun e t => return { e with thumbprints := ← readSeq (readText mode) t })]

def RegisteredIdentity.read (mode : Mode) : Reader τ RegisteredIdentity :=
  readRecord mode "RegisteredIdentity" (RegisteredIdentity.fields mode) {}

def ListenerConfig.fields (mode : Mode) : List (RecordField τ ListenerConfig) := [
  ("scheme", fun c t => return { c with scheme := ← readText mode t }),
  ("host", fun c t => return { c with host := ← readText mode t }),
  ("port", fun c t => return { c with port := .ofNat (← readBelow 65536 "u16" t) }),
  ("handshake_timeout", fun c t => return { c with handshakeTimeout := ← readDuration mode t })]

def TlsConfig.fields (mode : Mode) : List (RecordField τ TlsConfig) := [
  ("server_cert", fun c t => return { c with serverCert := ← readText mode t }),
  ("server_key", fun c t => return { c with serverKey := ← readText mode t }),
  ("ca_cert", fun c t => return { c with caCert := ← readOptional (readText mode) t }),
  ("crl_path", fun c t => return { c with crlPath := ← readOptional (readText mode) t }),
  ("client_cert_auth", fun c t => return { c with clientCertAuth := ← readBool t })]

def AuthorityConfig.kinds : List String := ["registry", "remote"]

def readIdentities : Reader τ (List RegisteredIdentity) :=
  readSeq (RegisteredIdentity.read .buffered)

/-- An authority of a kind, by name; `t` is the node that holds the members. -/
def AuthorityConfig.ofMembers (t : DataTree τ) (kind : Nat) (members : List (String × DataTree τ)) :
    Except (Located τ) AuthorityConfig :=
  match kind with
  | 0 =>
    match members.lookup "identities" with
    | none => .ok (.registry [])
    | some v => (readIdentities v).map .registry
  | _ =>
    match members.lookup "url" with
    | none => failAt t (.missingField "url")
    | some v => (readText .buffered v).map .remote

/-- An authority of a kind, by position; `t` is the node that holds the items. -/
def AuthorityConfig.ofItems (t : DataTree τ) (kind : Nat) (items : List (DataTree τ)) :
    Except (Located τ) AuthorityConfig := do
  let authority : AuthorityConfig ←
    match kind, items with
    | 0, [] => .ok (.registry [])
    | 0, v :: _ => (readIdentities v).map .registry
    | _, [] =>
      failAt t (.invalidLength 0 "struct variant AuthenticatorConfig::Remote with 1 element")
    | _, v :: _ => (readText .buffered v).map .remote
  checkSurplus .buffered t items.length (items.length - 1)
  return authority

/-- An authority, told apart by its kind; all else is buffered until the kind is known. -/
def AuthorityConfig.read (mode : Mode) : Reader τ AuthorityConfig
  | .map s members =>
    match members.lookup "kind" with
    | none => failAt (.map s members) (.missingField "kind")
    | some k => do
      let kind ← under "kind" (readVariant mode AuthorityConfig.kinds k)
      atNode (.map s members) (AuthorityConfig.ofMembers (.map s members) kind members)
  | .seq s [] => failAt (.seq s []) (.missingField "kind")
  | .seq s (k :: items) => do
    let kind ← under "0" (readVariant mode AuthorityConfig.kinds k)
    atNode (.seq s (k :: items)) (AuthorityConfig.ofItems (.seq s items) kind items)
  | t => mismatch t "internally tagged enum AuthenticatorConfig"

def AuthConfig.fields (mode : Mode) : List (RecordField τ AuthConfig) := [
  ("hub_name", fun c t => return { c with hubName := ← readText mode t }),
  ("timeout", fun c t => return { c with timeout := ← readDuration mode t }),
  ("max_inflight", fun c t =>
    return { c with maxInflight := .ofNat (← readBelow 18446744073709551616 "usize" t) }),
  ("worker_threads", fun c t =>
    return { c with workerThreads := .ofNat (← readBelow 18446744073709551616 "usize" t) }),
  ("authenticator", fun c t => return { c with authority := ← AuthorityConfig.read mode t })]

def Config.fields (mode : Mode) : List (RecordField τ Config) := [
  ("listener", fun c t => return { c with
    listener := ← readRecord mode "ListenerConfig" (ListenerConfig.fields mode) .default t }),
  ("tls", fun c t => return { c with
    tls := ← readRecord mode "TlsConfig" (TlsConfig.fields mode) .default t }),
  ("auth", fun c t => return { c with
    auth := ← readRecord mode "AuthConfig" (AuthConfig.fields mode) .default t })]

def Config.read (mode : Mode) : Reader τ Config :=
  readRecord mode "Config" (Config.fields mode) .default

end Reading

def Config.ofJson (v : Json.Value) : Except String Config :=
  match Config.read .document (DataTree.ofJson () v) with
  | .ok c => .ok c
  | .error e => .error e.fault.documentMessage

def RegisteredIdentity.listOfJson (v : Json.Value) : Except String (List RegisteredIdentity) :=
  match readSeq (RegisteredIdentity.read .document) (DataTree.ofJson () v) with
  | .ok es => .ok es
  | .error e => .error e.fault.documentMessage

/-! ### Writing -/

def optionalText : Option String → Json.Value
  | none => .null
  | some s => .str s

def RegisteredIdentity.toJson (e : RegisteredIdentity) : Json.Value := .obj [
  ("device_id", .str e.deviceId), ("module_id", optionalText e.moduleId),
  ("thumbprints", .arr (e.thumbprints.map .str))]

def ListenerConfig.toJson (c : ListenerConfig) : Json.Value := .obj [
  ("handshake_timeout", .str c.handshakeTimeout.text), ("host", .str c.host),
  ("port", .int c.port.toNat), ("scheme", .str c.scheme)]

def TlsConfig.toJson (c : TlsConfig) : Json.Value := .obj [
  ("ca_cert", optionalText c.caCert), ("client_cert_auth", .bool c.clientCertAuth),
  ("crl_path", optionalText c.crlPath), ("server_cert", .str c.serverCert),
  ("server_key", .str c.serverKey)]

def AuthorityConfig.toJson : AuthorityConfig → Json.Value
  | .registry es => .obj [("identities", .arr (es.map RegisteredIdentity.toJson)),
      ("kind", .str "registry")]
  | .remote url => .obj [("kind", .str "remote"), ("url", .str url)]

def AuthConfig.toJson (c : AuthConfig) : Json.Value := .obj [
  ("authenticator", c.authority.toJson), ("hub_name", .str c.hubName),
  ("max_inflight", .int c.maxInflight.toNat), ("timeout", .str c.timeout.text),
  ("worker_threads", .int c.workerThreads.toNat)]

def Config.toJson (c : Config) : Json.Value := .obj [
  ("auth", c.auth.toJson), ("listener", c.listener.toJson), ("tls", c.tls.toJson)]

end DeviceGateway
