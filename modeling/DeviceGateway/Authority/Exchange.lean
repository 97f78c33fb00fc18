import DeviceGateway.Bytes.Base64
import DeviceGateway.Credential
import DeviceGateway.Json.Record

/-!
# What is exchanged with a remote authority

The request carries the claim and the leaf certificate in Base64; the response carries one flag.
Both are JSON records.
-/

namespace DeviceGateway

structure AuthenticationRequest where
  hubName : String
  deviceId : String
  moduleId : Option String
  clientType : String
  thumbprint : String
  certificate : String
  deriving DecidableEq, Repr

namespace AuthenticationRequest

def ofCredential (c : Credential) : AuthenticationRequest where
  hubName := c.hubName
  deviceId := c.identity.deviceId
  moduleId := c.identity.moduleId
  clientType := c.clientType
  thumbprint := c.thumbprint
  certificate := Base64.encodeText c.certificate

def shape : Json.RecordShape where
  name := "AuthenticationRequest"
  fields := [⟨"hubName", .text⟩, ⟨"deviceId", .text⟩, ⟨"moduleId", .optionalText⟩,
    ⟨"clientType", .text⟩, ⟨"thumbprint", .text⟩, ⟨"certificate", .text⟩]

def optionalValue : Option String → Json.Value
  | none => .null
  | some s => .str s

def members (r : AuthenticationRequest) : List (String × Json.Value) := [
  ("hubName", .str r.hubName), ("deviceId", .str r.deviceId),
  ("moduleId", optionalValue r.moduleId), ("clientType", .str r.clientType),
  ("thumbprint", .str r.thumbprint), ("certificate", .str r.certificate)]

def text (r : AuthenticationRequest) : String := (Json.Value.obj r.members).compact

def ofValues? : List Json.Value → Option AuthenticationRequest
  | [.str hub, .str device, module_, .str client, .str print, .str cert] =>
    match module_ with
    | .str m => some ⟨hub, device, some m, client, print, cert⟩
    | .null => some ⟨hub, device, none, client, print, cert⟩
    | _ => none
  | _ => none

def parse (input : Bytes) : Except String AuthenticationRequest :=
  match shape.parse input with
  | .error p => .error (p.message input)
  | .ok values =>
    match ofValues? values with
    | some r => .ok r
    | none => .error "no request"

end AuthenticationRequest

structure AuthenticationResponse where
  authenticated : Bool
  deriving DecidableEq, Repr

namespace AuthenticationResponse

def shape : Json.RecordShape where
  name := "AuthenticationResponse"
  fields := [⟨"authenticated", .flag⟩]

def text (r : AuthenticationResponse) : String :=
  (Json.Value.obj [("authenticated", .bool r.authenticated)]).compact

def parse (input : Bytes) : Except String AuthenticationResponse :=
  match shape.parse input with
  | .error p => .error (p.message input)
  | .ok [.bool b] => .ok ⟨b⟩
  | .ok _ => .error "no response"

end AuthenticationResponse
end DeviceGateway
