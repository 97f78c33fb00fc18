import DeviceGateway.Duration

/-!
# Errors of the gateway

What can go wrong, by cause, and the wording of each cause. A fault of the identity authority is
told apart from all other errors.
-/

namespace DeviceGateway

inductive CertificateFault where
  | badEncoding
  | expired
  | notValidYet
  | revoked
  | unhandledCriticalExtension
  | unknownIssuer
  | unknownRevocationStatus
  | badSignature
  | notValidForName
  | invalidPurpose
  | applicationVerificationFailure
  | pastValidity
  | beforeValidity
  | purposeNotAllowed (allowed : List String)
  | authorityAsClient
  | clientAsAuthority
  | pathTooLong
  deriving DecidableEq, Repr

def CertificateFault.message : CertificateFault → String
  | .badEncoding => "BadEncoding"
  | .expired => "Expired"
  | .notValidYet => "NotValidYet"
  | .revoked => "Revoked"
  | .unhandledCriticalExtension => "UnhandledCriticalExtension"
  | .unknownIssuer => "UnknownIssuer"
  | .unknownRevocationStatus => "UnknownRevocationStatus"
  | .badSignature => "BadSignature"
  | .notValidForName => "NotValidForName"
  | .invalidPurpose => "InvalidPurpose"
  | .applicationVerificationFailure => "ApplicationVerificationFailure"
  | .pastValidity => "certificate expired"
  | .beforeValidity => "certificate not valid yet"
  | .purposeNotAllowed allowed =>
    "certificate does not allow extended key usage for client authentication, allows "
      ++ ", ".intercalate allowed
  | .authorityAsClient => "Other(OtherError(CaUsedAsEndEntity))"
  | .clientAsAuthority => "Other(OtherError(EndEntityUsedAsCa))"
  | .pathTooLong => "Other(OtherError(PathLenConstraintViolated))"

def CertificateFault.named : List CertificateFault := [
  badEncoding, expired, notValidYet, revoked, unhandledCriticalExtension, unknownIssuer,
  unknownRevocationStatus, badSignature, notValidForName, invalidPurpose,
  applicationVerificationFailure]

def CertificateFault.ofName? (name : String) : Option CertificateFault :=
  named.find? (·.message == name)

/-- Why a handshake step failed; any cause that has no name here is given by its wording. -/
inductive TlsError where
  | decryptError
  | noCertificatesPresented
  | handshakeNotComplete
  | invalidCertificate (fault : CertificateFault)
  | corruptMessage (what : String)
  | unexpectedMessage (got expected : String)
  | unexpectedHandshake (got expected : String)
  | fatalAlert (description : String)
  | incompatiblePeer (what : String)
  | misbehavingPeer (what : String)
  | general (text : String)
  | other (text : String)
  deriving DecidableEq, Repr

def TlsError.message : TlsError → String
  | .decryptError => "cannot decrypt peer's message"
  | .noCertificatesPresented => "peer sent no certificates"
  | .handshakeNotComplete => "handshake not complete"
  | .invalidCertificate f => "invalid peer certificate: " ++ f.message
  | .corruptMessage what => "received corrupt message of type " ++ what
  | .unexpectedMessage got expected =>
    "received unexpected message: got " ++ got ++ " when expecting " ++ expected
  | .unexpectedHandshake got expected =>
    "received unexpected handshake message: got " ++ got ++ " when expecting " ++ expected
  | .fatalAlert description => "received fatal alert: " ++ description
  | .incompatiblePeer what => "peer is incompatible: " ++ what
  | .misbehavingPeer what => "peer misbehaved: " ++ what
  | .general text => "unexpected error: " ++ text
  | .other text => text

def TlsError.ofName : String → TlsError
  | "DecryptError" => .decryptError
  | "NoCertificatesPresented" => .noCertificatesPresented
  | "HandshakeNotComplete" => .handshakeNotComplete
  | name => ((CertificateFault.ofName? name).map .invalidCertificate).getD (.general name)

/-- The error by which the gateway itself refuses a client certificate. -/
def TlsError.refused : TlsError := .invalidCertificate .applicationVerificationFailure

inductive GatewayError where
  | config (text : String)
  | certificate (text : String)
  | credential (text : String)
  | authentication (text : String)
  | authenticationTimeout (deadline : Duration)
  | handshake (text : String)
  | tls (error : TlsError)
  | io (text : String)
  | json (text : String)
  | http (text : String)
  | shutdown
  | internal (text : String)
  deriving DecidableEq, Repr

namespace GatewayError

def kind : GatewayError → String
  | .config _ => "Config"
  | .certificate _ => "Certificate"
  | .credential _ => "Credential"
  | .authentication _ => "Authentication"
  | .authenticationTimeout _ => "AuthenticationTimeout"
  | .handshake _ => "Handshake"
  | .tls _ => "Tls"
  | .io _ => "Io"
  | .json _ => "Json"
  | .http _ => "Http"
  | .shutdown => "Shutdown"
  | .internal _ => "Internal"

def message : GatewayError → String
  | .config t => "Configuration error: " ++ t
  | .certificate t => "Certificate error: " ++ t
  | .credential t => "Credential error: " ++ t
  | .authentication t => "Authentication error: " ++ t
  | .authenticationTimeout d => "Authentication timed out after " ++ d.shown
  | .handshake t => "Handshake error: " ++ t
  | .tls e => "TLS error: " ++ e.message
  | .io t => "IO error: " ++ t
  | .json t => "JSON error: " ++ t
  | .http t => "HTTP error: " ++ t
  | .shutdown => "Server shutdown"
  | .internal t => "Internal error: " ++ t

def isAuthenticationFault : GatewayError → Bool
  | .authentication _ => true
  | .authenticationTimeout _ => true
  | .http _ => true
  | .json _ => true
  | _ => false

end GatewayError
end DeviceGateway
