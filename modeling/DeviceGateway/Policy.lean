import DeviceGateway.Text.LetterCase

/-!
# Identity policy

A certificate claims a device, a module and a hub, each of which may be absent. The policy asks
for a device; a module that names a hub must name the hub of this gateway.
-/

namespace DeviceGateway

structure ClaimedIdentity where
  hubName : Option String := none
  deviceId : Option String := none
  moduleId : Option String := none
  deriving DecidableEq, Repr, Inhabited

def ClaimedIdentity.isEmpty (c : ClaimedIdentity) : Bool :=
  c.hubName.isNone && c.deviceId.isNone && c.moduleId.isNone

structure ValidatedIdentity where
  deviceId : String
  moduleId : Option String
  deriving DecidableEq, Repr

inductive RejectReason where
  | noCertificate
  | missingDeviceId
  | moduleWithoutDevice (moduleId : String)
  | hubNameMismatch (expected presented : String)
  | credentialBuild (text : String)
  | authenticatorDenied
  | authenticatorFault (text : String)
  | certificateInvalid (text : String)
  | outOfOrder
  deriving DecidableEq, Repr

def RejectReason.kind : RejectReason → String
  | .noCertificate => "NoCertificate"
  | .missingDeviceId => "MissingDeviceId"
  | .moduleWithoutDevice _ => "ModuleWithoutDevice"
  | .hubNameMismatch _ _ => "HubNameMismatch"
  | .credentialBuild _ => "CredentialBuild"
  | .authenticatorDenied => "AuthenticatorDenied"
  | .authenticatorFault _ => "AuthenticatorFault"
  | .certificateInvalid _ => "CertificateInvalid"
  | .outOfOrder => "OutOfOrder"

def RejectReason.message : RejectReason → String
  | .noCertificate => "no client certificate presented"
  | .missingDeviceId => "certificate carries no device id"
  | .moduleWithoutDevice m => "module id '" ++ m ++ "' presented without a device id"
  | .hubNameMismatch expected presented =>
    "hub name '" ++ presented ++ "' does not match '" ++ expected ++ "'"
  | .credentialBuild t => "credential could not be built: " ++ t
  | .authenticatorDenied => "identity authority denied the credential"
  | .authenticatorFault t => "identity authority fault: " ++ t
  | .certificateInvalid t => "certificate chain rejected: " ++ t
  | .outOfOrder => "handshake step out of order"

/-- Whether a claimed module belongs to another hub. A device may name any hub, and a module may
name none. -/
def ClaimedIdentity.foreignHub (c : ClaimedIdentity) (hub : String) : Option String :=
  match c.moduleId, c.hubName with
  | some _, some presented => if Text.sameIgnoringCase presented hub then none else some presented
  | _, _ => none

/-- The accepted identity, or the first rule that a claim breaks. -/
def ClaimedIdentity.validate (c : ClaimedIdentity) (hub : String) :
    Except RejectReason ValidatedIdentity :=
  match c.deviceId with
  | none =>
    match c.moduleId with
    | some m => .error (.moduleWithoutDevice m)
    | none => .error .missingDeviceId
  | some d =>
    match c.foreignHub hub with
    | some presented => .error (.hubNameMismatch hub presented)
    | none => .ok ⟨d, c.moduleId⟩

theorem ClaimedIdentity.validate_eq_ok {c : ClaimedIdentity} {hub : String} {v : ValidatedIdentity}
    (h : c.validate hub = .ok v) :
    c.deviceId = some v.deviceId ∧ c.moduleId = v.moduleId ∧
      ∀ m presented, c.moduleId = some m → c.hubName = some presented →
        Text.sameIgnoringCase presented hub = true := by
  obtain ⟨hubName, deviceId, moduleId⟩ := c
  cases deviceId with
  | none => cases moduleId <;> cases h
  | some d =>
    unfold validate at h
    cases hf : (ClaimedIdentity.mk hubName (some d) moduleId).foreignHub hub with
    | some presented =>
      simp only [hf] at h
      cases h
    | none =>
      simp only [hf] at h
      cases h
      refine ⟨rfl, rfl, ?_⟩
      rintro m presented rfl rfl
      simp only [foreignHub] at hf
      split at hf
      · assumption
      · cases hf

end DeviceGateway
