import DeviceGateway.Bytes.Utf8Repair
import DeviceGateway.Pem.Body
import DeviceGateway.Text.Quoted

/-!
# Sections of a text file

A file holds sections between marker lines, each with a label and a body. Text outside sections
counts for nothing, and sections of unknown labels are passed over. The first fault ends the
reading: what stands before it is kept.
-/

namespace DeviceGateway.Pem

inductive Kind where
  | certificate
  | revocationList
  | rsaKey
  | ecKey
  | pkcs8Key
  | publicKey
  | request
  | helloConfig
  deriving DecidableEq, Repr

def Kind.label : Kind → String
  | certificate => "CERTIFICATE"
  | revocationList => "X509 CRL"
  | rsaKey => "RSA PRIVATE KEY"
  | ecKey => "EC PRIVATE KEY"
  | pkcs8Key => "PRIVATE KEY"
  | publicKey => "PUBLIC KEY"
  | request => "CERTIFICATE REQUEST"
  | helloConfig => "ECHCONFIG"

def Kind.all : List Kind :=
  [certificate, revocationList, rsaKey, ecKey, pkcs8Key, publicKey, request, helloConfig]

def Kind.isPrivateKey : Kind → Bool
  | rsaKey => true
  | ecKey => true
  | pkcs8Key => true
  | _ => false

def kindOf? (label : Bytes) : Option Kind :=
  Kind.all.find? fun k => Utf8.encodeText k.label == label

structure Section where
  kind : Kind
  der : Bytes
  deriving DecidableEq, Repr

inductive Fault where
  | missingEnd (label : Bytes)
  | illegalStart (line : Bytes)
  | body (fault : BodyFault)
  deriving DecidableEq, Repr

def Fault.message : Fault → String
  | .missingEnd label => "section end " ++ Text.quoted (Utf8.repair label) ++ " missing"
  | .illegalStart line => "illegal section start: " ++ Text.quoted (Utf8.repair line)
  | .body f => f.message

/-! ### Lines -/

def isBreak (b : UInt8) : Bool := b == 10 || b == 13

/-- The lines of a file, each with its end. -/
def lines : Bytes → List Bytes
  | [] => []
  | b :: rest =>
    if isBreak b then [b] :: lines rest
    else match lines rest with
      | [] => [[b]]
      | line :: more => (b :: line) :: more

inductive Start where
  | none
  | illegal
  | label (label : Bytes)
  deriving DecidableEq, Repr

def startMark : Bytes := Utf8.encodeText "-----BEGIN "
def endMark : Bytes := Utf8.encodeText "-----END "
def dashes : Bytes := Utf8.encodeText "-----"

/-- What stands before the last dashes of a line from the end on, and the number of dashes; breaks
and spaces among them count for nothing. -/
def dropTrailer (dashesSoFar : Nat) : Bytes → Nat × Bytes
  | [] => (dashesSoFar, [])
  | b :: rest =>
    if b = 0x2D then dropTrailer (dashesSoFar + 1) rest
    else if isBreak b ∨ b = 0x20 then
      -- blanks in front of the dashes belong to the label
      match dropTrailer dashesSoFar rest with
      | (n, before) => if n = dashesSoFar then (n, b :: rest) else (n, before)
    else (dashesSoFar, b :: rest)

/-- The start of a section: a mark, a label and exactly five dashes. -/
def startOf (line : Bytes) : Start :=
  if line.take startMark.length = startMark then
    let (n, before) := dropTrailer 0 line.reverse
    if n = 5 then .label (before.reverse.drop startMark.length) else .illegal
  else .none

def isEnd (label line : Bytes) : Bool :=
  (endMark ++ label ++ dashes).isPrefixOf line

/-! ### Reading -/

/-- The sections of lines up to the first fault; `label` and `body` are those of the section that
is open. -/
def readLines (label : Option Bytes) (body : Bytes) : List Bytes → List Section × Option Fault
  | [] => ([], label.map .missingEnd)
  | line :: rest =>
    match startOf line with
    | .illegal => ([], some (.illegalStart line))
    | .label l => readLines (some l) body rest
    | .none =>
      match label with
      | none => readLines none body rest
      | some l =>
        if isEnd l line then
          match kindOf? l with
          | none => readLines none [] rest
          | some kind =>
            match decodeBody body with
            | .error f => ([], some (.body f))
            | .ok der =>
              let (sections, fault) := readLines none [] rest
              (⟨kind, der⟩ :: sections, fault)
        else readLines (some l) (body ++ line) rest

def read (content : Bytes) : List Section × Option Fault := readLines none [] (lines content)

def readKind (kind : Kind) (content : Bytes) : Except Fault (List Bytes) :=
  match read content with
  | (_, some f) => .error f
  | (sections, none) => .ok ((sections.filter (·.kind == kind)).map (·.der))

/-- The first section with a private key; what follows it counts for nothing. -/
def readPrivateKey (content : Bytes) : Except Fault (Option Section) :=
  let (sections, fault) := read content
  match sections.find? (·.kind.isPrivateKey), fault with
  | some s, _ => .ok (some s)
  | none, some f => .error f
  | none, none => .ok none

/-! ### Writing -/

/-- The characters of a body in lines of 64. -/
def wrap : Nat → List Char → List Char
  | 0, _ => []
  | fuel + 1, cs =>
    if cs.isEmpty then [] else cs.take 64 ++ '\n' :: wrap fuel (cs.drop 64)

def Section.text (s : Section) : String :=
  let body := Base64.encode s.der
  "-----BEGIN " ++ s.kind.label ++ "-----\n" ++ String.ofList (wrap body.length body)
    ++ "-----END " ++ s.kind.label ++ "-----\n"

end DeviceGateway.Pem
