import DeviceGateway.Authority.Exchange
import DeviceGateway.Http.Exchange
import DeviceGateway.Log

/-!
# Remote authority

A remote authority is asked by a request that posts the credential. A full answer decides; three
statuses deny; everything else is a fault.
-/

namespace DeviceGateway

structure RemoteAuthority where
  endpoint : Url.WebAddress
  deriving DecidableEq, Repr

namespace RemoteAuthority

def create (url : String) : Except GatewayError RemoteAuthority :=
  match Url.parse url with
  | .error f => .error (.config ("Invalid authority URL '" ++ url ++ "': " ++ f.message))
  | .ok a =>
    match a.isHttp, a with
    | true, .web w => .ok ⟨w⟩
    | _, a => .error (.config ("Authority URL must be http or https, got '" ++ a.scheme ++ "'"))

def denies (status : Nat) : Bool := status == 401 || status == 403 || status == 404

def verdict : Http.Result → Except GatewayError Bool
  | .failed text => .error (.http text)
  | .answered status body =>
    if status = 200 then
      match body with
      | .error text => .error (.http text)
      | .ok bytes =>
        match AuthenticationResponse.parse bytes with
        | .ok answer => .ok answer.authenticated
        | .error text => .error (.json text)
    else if denies status then .ok false
    else .error (.authentication ("identity authority returned " ++ Http.statusText status))

def log (c : Credential) : Http.Result → Log
  | .failed _ => []
  | .answered status body =>
    if status = 200 then
      match verdict (.answered status body) with
      | .ok b => [{ area := .remote, level := .debug, message := "Identity authority answered",
                    fields := [("identity", c.identity.id), ("authenticated", .truth b)] }]
      | .error _ => []
    else if denies status then
      [{ area := .remote, level := .debug, message := "Identity authority denied",
         fields := [("identity", c.identity.id), ("status", Http.statusText status)] }]
    else
      [{ area := .remote, level := .warn, message := "Identity authority failed",
         fields := [("identity", c.identity.id), ("status", Http.statusText status)] }]

def request (a : RemoteAuthority) (c : Credential) : Http.Request :=
  .posting a.endpoint (AuthenticationRequest.ofCredential c).text

def consult {ν : Type} (exchange : Http.Request → ν → Option Http.Response × ν)
    (a : RemoteAuthority) (c : Credential) (w : ν) : Http.Result × ν :=
  Http.send exchange (a.request c) w

end RemoteAuthority
end DeviceGateway
