import DeviceGateway.Bytes.Sha256
import DeviceGateway.Error

/-!
# Client credentials

A credential is what the identity authority decides on: who the client claims to be, for which
hub, and the certificates that back the claim. A factory builds it from an accepted identity.
-/

namespace DeviceGateway

/-- A device, or a module hosted by a device. -/
inductive ClientIdentity where
  | device (deviceId : String)
  | hosted (deviceId moduleId : String)
  deriving DecidableEq, Repr

namespace ClientIdentity

/-- The device, or the device that hosts the module. -/
def deviceId : ClientIdentity → String
  | device d => d
  | hosted d _ => d

def moduleId : ClientIdentity → Option String
  | device _ => none
  | hosted _ m => some m

def ofIds (deviceId : String) : Option String → ClientIdentity
  | none => device deviceId
  | some m => hosted deviceId m

/-- The canonical id of a device and an optional module: both joined by a slash. -/
def joinedId (deviceId : String) : Option String → String
  | none => deviceId
  | some m => deviceId ++ "/" ++ m

def id (c : ClientIdentity) : String := joinedId c.deviceId c.moduleId

theorem ofIds_deviceId_moduleId (c : ClientIdentity) : ofIds c.deviceId c.moduleId = c := by
  cases c <;> rfl

@[simp] theorem moduleId_ofIds (d : String) (m : Option String) : (ofIds d m).moduleId = m := by
  cases m <;> rfl

end ClientIdentity

inductive ProofMethod where
  | x509Certificate
  deriving DecidableEq, Repr

def ProofMethod.text : ProofMethod → String
  | .x509Certificate => "X509Certificate"

def thumbprint (certificate : Bytes) : String := Bytes.toHexUpper (Sha256.digest certificate)

/-- What the identity authority decides on; the chain is leaf first. -/
structure Credential where
  hubName : String
  identity : ClientIdentity
  clientType : String
  method : ProofMethod
  certificate : Bytes
  chain : List Bytes
  deriving DecidableEq, Repr

def Credential.thumbprint (c : Credential) : String := DeviceGateway.thumbprint c.certificate

/-- What is needed to build a credential; the chain is leaf first. -/
structure CredentialRequest where
  deviceId : String
  moduleId : Option String
  clientType : String
  certificate : Bytes
  chain : List Bytes
  deriving DecidableEq, Repr

abbrev CredentialFactory := CredentialRequest → Except GatewayError Credential

def x509Factory (hubName : String) : CredentialFactory := fun r =>
  if Text.isBlank r.deviceId then .error (.credential "device id is blank")
  else if r.chain.isEmpty then .error (.credential "certificate chain is empty")
  else if r.moduleId.any Text.isBlank then .error (.credential "module id is blank")
  else .ok {
    hubName := hubName
    identity := .ofIds r.deviceId r.moduleId
    clientType := r.clientType
    method := .x509Certificate
    certificate := r.certificate
    chain := r.chain }

theorem x509Factory_eq_ok {hubName : String} {r : CredentialRequest} {c : Credential}
    (h : x509Factory hubName r = .ok c) :
    c = ⟨hubName, .ofIds r.deviceId r.moduleId, r.clientType, .x509Certificate, r.certificate,
      r.chain⟩ := by
  unfold x509Factory at h
  split at h
  · cases h
  · split at h
    · cases h
    · split at h
      · cases h
      · exact (Except.ok.inj h).symm

end DeviceGateway
