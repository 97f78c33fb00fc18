import DeviceGateway.Certificate.RevocationList
import DeviceGateway.Error

/-!
# Chain validation

A client's certificate is validated against trusted authorities: a path leads from it over the
presented certificates to an anchor, each certificate signed by the next, none expired, none
revoked. Of several faults the most telling one is reported.
-/

namespace DeviceGateway

open Certificate (Record Purpose)

structure TrustAnchor where
  subject : Bytes
  publicKey : Bytes
  deriving DecidableEq, Repr

structure ChainPolicy where
  anchors : List TrustAnchor
  lists : List RevocationList
  deriving DecidableEq, Repr

namespace ChainPolicy

/-- How telling a fault is. -/
def rank : CertificateFault → Nat
  | .pastValidity => 8
  | .beforeValidity => 8
  | .revoked => 7
  | .unknownRevocationStatus => 7
  | .badSignature => 6
  | .purposeNotAllowed _ => 5
  | .pathTooLong => 4
  | .authorityAsClient => 3
  | .clientAsAuthority => 3
  | .badEncoding => 1
  | _ => 0

/-- The more telling of two faults, the first if none is. -/
def worse (a b : CertificateFault) : CertificateFault := if rank a < rank b then b else a

/-! ### Single certificates -/

def purposeName (id : Bytes) : String :=
  if id = Purpose.clientAuth.id then "client authentication"
  else if id = Purpose.serverAuth.id then "server authentication"
  else Bytes.toHex id

/-- The checks of a certificate by itself; `asAuthority` holds for all but the client's own. -/
def checkAlone (now : Calendar.Instant) (asAuthority : Bool) (r : Record) :
    Except CertificateFault Unit :=
  if r.notAfter.toSeconds < now.toSeconds then .error .pastValidity
  else if now.toSeconds < r.notBefore.toSeconds then .error .beforeValidity
  else if r.isAuthority && !asAuthority then .error .authorityAsClient
  else if asAuthority && !r.isAuthority then .error .clientAsAuthority
  else
    match r.purposes? with
    | none => .ok ()
    | some ps =>
      if ps.contains Purpose.clientAuth.id then .ok ()
      else .error (.purposeNotAllowed (ps.map purposeName))

/-! ### Paths -/

/-- Whether the issuer of a certificate, with the given key, has not revoked it. -/
def checkRevocation (p : ChainPolicy) (issuerKey : Bytes) (mayRevoke : Bool) (r : Record) :
    Except CertificateFault Unit :=
  if p.lists.isEmpty then .ok ()
  else
    match p.lists.find? (·.issuer == r.issuer) with
    | none => .error .unknownRevocationStatus
    | some list =>
      if !isSignedBy issuerKey list.algorithm list.signed list.signature then .error .badSignature
      else if !mayRevoke then .error .unknownRevocationStatus
      else if list.serials.contains r.serial then .error .revoked
      else .ok ()

/-- The signatures of a path from an anchor down; each certificate is signed with the key of the one
before it. -/
def checkSignatures (p : ChainPolicy) (issuerKey : Bytes) (mayRevoke : Bool) :
    List Record → Except CertificateFault Unit
  | [] => .ok ()
  | r :: rest =>
    if !isSignedBy issuerKey r.algorithm r.signed r.signature then .error .badSignature
    else
      match p.checkRevocation issuerKey mayRevoke r with
      | .error f => .error f
      | .ok _ => p.checkSignatures r.publicKey (r.allows .crlSign) rest

/-- The end of a path, latest certificate first, at one of the anchors. -/
def reachAnchor (p : ChainPolicy) (path : List Record) (issuer : Bytes) :
    List TrustAnchor → CertificateFault → Except CertificateFault Unit
  | [], fault => .error fault
  | a :: rest, fault =>
    if a.subject = issuer then
      match p.checkSignatures a.publicKey true path with
      | .ok _ => .ok ()
      | .error f => p.reachAnchor path issuer rest (worse fault f)
    else p.reachAnchor path issuer rest fault

def longestPath : Nat := 6

def isOnPath (r : Record) (path : List Record) : Bool :=
  path.any fun q => q.subject == r.subject && q.publicKey == r.publicKey

/-- The first attempt that succeeds, or the most telling fault. -/
def firstSuccess (attempt : Bytes → Except CertificateFault Unit) :
    List Bytes → CertificateFault → Except CertificateFault Unit
  | [], fault => .error fault
  | der :: rest, fault =>
    match attempt der with
    | .ok _ => .ok ()
    | .error f => firstSuccess attempt rest (worse fault f)

/-- A path from its latest certificate on: it reaches an anchor, or one of the presented
certificates as its issuer. `fuel` bounds the authorities still allowed. -/
def extendPath (p : ChainPolicy) (now : Calendar.Instant) (presented : List Bytes) :
    Nat → List Record → Record → Except CertificateFault Unit
  | fuel, below, r =>
    match checkAlone now (!below.isEmpty) r with
    | .error f => .error f
    | .ok _ =>
      let path := r :: below
      match p.reachAnchor path r.issuer p.anchors .unknownIssuer with
      | .ok _ => .ok ()
      | .error fault =>
        match fuel with
        | 0 => .error fault
        | fuel + 1 =>
          firstSuccess (fun der =>
            match Record.ofDer? der with
            | none => .error .badEncoding
            | some next =>
              if next.subject ≠ r.issuer ∨ isOnPath next path then .error .unknownIssuer
              else p.extendPath now presented fuel path next) presented fault

/-- Validate the certificates that a client presented, its own first. -/
def validate (p : ChainPolicy) (now : Calendar.Instant) (leaf : Bytes)
    (intermediates : List Bytes) : Except CertificateFault Unit :=
  match Record.ofDer? leaf with
  | none => .error .badEncoding
  | some r => p.extendPath now intermediates longestPath [] r

/-! ### Anchors -/

def anchorOf? (der : Bytes) : Option TrustAnchor :=
  (Record.ofDer? der).map fun r => ⟨r.subject, r.publicKey⟩

def badAnchor : GatewayError :=
  .config ("Failed to add CA cert to trust store: "
    ++ (TlsError.invalidCertificate .badEncoding).message)

/-- A policy of authorities and revocation lists; there must be an authority. -/
def create (authorities lists : List Bytes) : Except GatewayError ChainPolicy := do
  let anchors ← authorities.mapM fun der =>
    match anchorOf? der with
    | some a => .ok a
    | none => .error badAnchor
  let failed := fun text => GatewayError.config ("Failed to build client verifier: " ++ text)
  if anchors.isEmpty then .error (failed "no root trust anchors were provided")
  let lists ← lists.mapM fun der =>
    (RevocationList.ofDer der).mapError fun f =>
      failed ("provided CRL could not be parsed: " ++ f.message)
  .ok ⟨anchors, lists⟩

end ChainPolicy
end DeviceGateway
