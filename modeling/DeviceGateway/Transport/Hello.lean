import DeviceGateway.Error
import DeviceGateway.Der.Element
import DeviceGateway.Text.Numeral
import DeviceGateway.Text.Quoted

/-!
# The first octets of a client

What a client sends first is a record of type handshake that holds a hello. The first fault in it
ends the handshake; what is sound but not complete is waited for.
-/

namespace DeviceGateway.Hello

def corrupt (what : String) : TlsError := .corruptMessage what

def missing (part : String) : TlsError := corrupt ("MissingData(" ++ Text.quoted part ++ ")")

/-- A fault that names the part with octets after its end. -/
def surplus (part : String) : TlsError := corrupt ("TrailingData(" ++ Text.quoted part ++ ")")

def changeCipherSpec : Nat := 20
def alert : Nat := 21
def handshake : Nat := 22
def applicationData : Nat := 23
def heartbeat : Nat := 24

/-- Whether the version of a record is taken: the major number is 3, or it is one of the known other
versions. -/
def isRecordVersion (v : Nat) : Bool :=
  v / 256 == 3 || v == 0x0200 || v == 0xFEFF || v == 0xFEFD || v == 0xFEFC

def largestRecord : Nat := 16384 + 2048

/-- The type, the content and what follows of a record; nothing if more is waited for. -/
def readRecord (bs : Bytes) : Except TlsError (Option (Nat × Bytes × Bytes)) :=
  match bs with
  | [] => .ok none
  | type :: rest =>
    if type.toNat < changeCipherSpec ∨ heartbeat < type.toNat then
      .error (corrupt "InvalidContentType")
    else
      match rest with
      | v1 :: v2 :: rest =>
        if !isRecordVersion (Der.ofBigEndian [v1, v2]) then
          .error (corrupt "UnknownProtocolVersion")
        else
          match rest with
          | l1 :: l2 :: rest =>
            let length := Der.ofBigEndian [l1, l2]
            if length = 0 ∧ type.toNat ≠ applicationData then .error (corrupt "InvalidEmptyPayload")
            else if largestRecord ≤ length then .error (corrupt "MessageTooLarge")
            else if rest.length < length then .ok none
            else .ok (some (type.toNat, rest.take length, rest.drop length))
          | _ => .ok none
      | _ => .ok none

/-- A part of the given length, or the fault that it is missing. -/
def take (n : Nat) (part : String) (bs : Bytes) : Except TlsError (Bytes × Bytes) :=
  if bs.length < n then .error (missing part) else .ok (bs.take n, bs.drop n)

/-- A list with a length of `size` octets, which may not be empty. -/
def takeList (size : Nat) (name : String) (bs : Bytes) : Except TlsError (Bytes × Bytes) := do
  let (lengthOctets, rest) ← take size "u8" bs
  let length := Der.ofBigEndian lengthOctets
  if length = 0 then .error (corrupt ("IllegalEmptyList(" ++ Text.quoted name ++ ")"))
  else if rest.length < length then .error (corrupt "MessageTooShort")
  else .ok (rest.take length, rest.drop length)

/-- The fault of a hello; a sound hello that offers nothing lacks the signature algorithms. -/
def judgeHello (content : Bytes) : Except TlsError Unit := do
  let (_, rest) ← take 2 "ProtocolVersion" content
  let (_, rest) ← take 32 "Random" rest
  let (sessionLength, rest) ← take 1 "u8" rest
  let n := Der.ofBigEndian sessionLength
  if 32 < n then .error (surplus "SessionID")
  let (_, rest) ← take n "SessionID" rest
  let (_, rest) ← takeList 2 "CipherSuites" rest
  let (methods, _) ← takeList 1 "Compressions" rest
  if !methods.contains 0 then .error (.incompatiblePeer "NullCompressionRequired")
  .error (.incompatiblePeer "SignatureAlgorithmsExtensionRequired")

def messageNames : List (Nat × String) := [
  (0, "HelloRequest"), (2, "ServerHello"), (3, "HelloVerifyRequest"), (4, "NewSessionTicket"),
  (5, "EndOfEarlyData"), (8, "EncryptedExtensions"), (11, "Certificate"),
  (12, "ServerKeyExchange"), (13, "CertificateRequest"), (14, "ServerHelloDone"),
  (15, "CertificateVerify"), (16, "ClientKeyExchange"), (20, "Finished"),
  (21, "CertificateURL"), (22, "CertificateStatus"), (24, "KeyUpdate")]

/-- The name of a type, or its number if it has none. -/
def nameOr (names : List (Nat × String)) (type : UInt8) : String :=
  (names.lookup type.toNat).getD ("Unknown(" ++ Text.natText type.toNat ++ ")")

/-- The fault of handshake octets; nothing if more is waited for. -/
def judgeHandshake : Bytes → Option TlsError
  | type :: l1 :: l2 :: l3 :: rest =>
    let length := Der.ofBigEndian [l1, l2, l3]
    if 0xFFFF < length then some (corrupt "HandshakePayloadTooLarge")
    else if rest.length < length then none
    else if type ≠ 1 then some (.unexpectedHandshake (nameOr messageNames type) "ClientHello")
    else
      match judgeHello (rest.take length) with
      | .error e => some e
      | .ok _ => none
  | _ => none

def alertNames : List (Nat × String) := [
  (0, "CloseNotify"), (10, "UnexpectedMessage"), (20, "BadRecordMac"), (21, "DecryptionFailed"),
  (22, "RecordOverflow"), (30, "DecompressionFailure"), (40, "HandshakeFailure"),
  (41, "NoCertificate"), (42, "BadCertificate"), (43, "UnsupportedCertificate"),
  (44, "CertificateRevoked"), (45, "CertificateExpired"), (46, "CertificateUnknown"),
  (47, "IllegalParameter"), (48, "UnknownCA"), (49, "AccessDenied"), (50, "DecodeError"),
  (51, "DecryptError"), (60, "ExportRestriction"), (70, "ProtocolVersion"),
  (71, "InsufficientSecurity"), (80, "InternalError"), (86, "InappropriateFallback"),
  (90, "UserCanceled"), (100, "NoRenegotiation"), (109, "MissingExtension"),
  (110, "UnsupportedExtension"), (111, "CertificateUnobtainable"), (112, "UnrecognisedName"),
  (113, "BadCertificateStatusResponse"), (114, "BadCertificateHashValue"),
  (115, "UnknownPSKIdentity"), (116, "CertificateRequired"), (120, "NoApplicationProtocol"),
  (121, "EncryptedClientHelloRequired")]

def warning : UInt8 := 1

/-- The fault of an alert; nothing if it is a warning. -/
def judgeAlert : Bytes → Option TlsError
  | [] => some (missing "AlertLevel")
  | [_] => some (missing "AlertDescription")
  | [level, description] =>
    if level = warning then none else some (.fatalAlert (nameOr alertNames description))
  | _ => some (surplus "AlertMessagePayload")

/-- The fault of a change of ciphers, which has no place before a hello. -/
def judgeCipherChange : Bytes → TlsError
  | [1] => .unexpectedMessage "ChangeCipherSpec" "Handshake"
  | 1 :: _ => surplus "ChangeCipherSpecPayload"
  | _ => corrupt "InvalidCcs"

def warningLimit : Nat := 4

/-- The fault of what a client sent; nothing if more is waited for. `fuel` bounds the records; the
octets of handshake records are joined, and no other record may stand between them. -/
def judgeRecords : Nat → Nat → Bytes → Bytes → Option TlsError
  | 0, _, _, _ => none
  | fuel + 1, warnings, joined, bs =>
    match readRecord bs with
    | .error e => some e
    | .ok none => none
    | .ok (some (type, content, rest)) =>
      if type = handshake then
        match judgeHandshake (joined ++ content) with
        | some e => some e
        | none => judgeRecords fuel warnings (joined ++ content) rest
      else if !joined.isEmpty then
        some (.misbehavingPeer "MessageInterleavedWithHandshakeMessage")
      else if type = alert then
        match judgeAlert content with
        | some e => some e
        | none =>
          if warnings = warningLimit then some (.misbehavingPeer "TooManyWarningAlertsReceived")
          else judgeRecords fuel (warnings + 1) joined rest
      else if type = changeCipherSpec then some (judgeCipherChange content)
      else if type = applicationData then
        some (.unexpectedMessage "ApplicationData" "Handshake")
      else some (corrupt "InvalidContentType")

/-- The fault of what a client sent; nothing if more is waited for. -/
def judge (sent : Bytes) : Option TlsError := judgeRecords (sent.length + 1) 0 [] sent

end DeviceGateway.Hello
