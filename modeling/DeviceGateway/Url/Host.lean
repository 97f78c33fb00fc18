import DeviceGateway.Text.Numeral
import DeviceGateway.Text.Split
import DeviceGateway.Url.PercentCoding

/-!
# Hosts of web addresses

A host is a domain, an IPv4 address or an IPv6 address in brackets. A host whose last label is a
number must be an IPv4 address, whose parts may be octal or hexadecimal and whose last part fills
the rest.
-/

namespace DeviceGateway.Url

/-- Why a text is no address of a resource. -/
inductive Fault where
  | emptyHost
  | invalidDomain
  | invalidPort
  | invalidIpv4
  | invalidIpv6
  | invalidHostCharacter
  | relativeWithoutBase
  deriving DecidableEq, Repr

def Fault.message : Fault → String
  | .emptyHost => "empty host"
  | .invalidDomain => "invalid international domain name"
  | .invalidPort => "invalid port number"
  | .invalidIpv4 => "invalid IPv4 address"
  | .invalidIpv6 => "invalid IPv6 address"
  | .invalidHostCharacter => "invalid domain character"
  | .relativeWithoutBase => "relative URL without a base"

inductive Host where
  | domain (name : List Char)
  | ipv4 (address : Nat)
  | ipv6 (pieces : List Nat)
  deriving DecidableEq, Repr

/-! ### IPv4 -/

/-- A part of an IPv4 address; `none` inside if it passes 32 bits. -/
def ipv4Number? (cs : List Char) : Option (Option Nat) :=
  let read := fun (radix : Nat) (digits : List Char) =>
    if digits.isEmpty then some (some 0)
    else if digits.all fun c => (Text.digitValue? radix c).isSome then
      match Text.readDigits radix 4294967296 0 digits with
      | .ok n => some (some n)
      | .error _ => some none
    else none
  match cs with
  | [] => none
  | '0' :: 'x' :: rest => read 16 rest
  | '0' :: 'X' :: rest => read 16 rest
  | '0' :: c :: rest => read 8 (c :: rest)
  | digits => read 10 digits

/-- The parts of a host, an empty one at the end left out. -/
def hostParts (cs : List Char) : List (List Char) :=
  let parts := Text.splitOn '.' cs
  if parts.getLast? = some [] then parts.dropLast else parts

def endsInNumber (cs : List Char) : Bool :=
  match (hostParts cs).getLast? with
  | none => false
  | some last => (!last.isEmpty && last.all Char.isDigit) || (ipv4Number? last).isSome

def ipv4Numbers? : List (List Char) → Option (List Nat)
  | [] => some []
  | p :: ps => do
    let n ← ipv4Number? p
    let n ← n
    let ns ← ipv4Numbers? ps
    some (n :: ns)

def readIpv4 (cs : List Char) : Except Fault Nat :=
  let parts := hostParts cs
  if parts.length > 4 then .error .invalidIpv4
  else
    match ipv4Numbers? parts with
    | none => .error .invalidIpv4
    | some numbers =>
      let firsts := numbers.dropLast
      let last := numbers.getLastD 0
      if last ≥ Nat.pow 256 (4 - firsts.length) ∨ firsts.any (· > 255) then .error .invalidIpv4
      else
        let high := firsts.foldl (fun acc n => acc * 256 + n) 0
        .ok (high * Nat.pow 256 (4 - firsts.length) + last)

/-! ### IPv6 -/

/-- What stands before the compressed zeros, its count, and whether there are any. -/
structure Ipv6Parts where
  pieces : List Nat
  compressAt : Option Nat

def takeHex : Nat → Nat → List Char → Nat × List Char
  | 0, acc, cs => (acc, cs)
  | _ + 1, acc, [] => (acc, [])
  | n + 1, acc, c :: rest =>
    match Text.digitValue? 16 c with
    | some d => takeHex n (acc * 16 + d) rest
    | none => (acc, c :: rest)

/-- The four decimal numbers at the end of an IPv6 address. -/
def ipv4Tail? (cs : List Char) : Option (List Nat) :=
  let parts := Text.splitOn '.' cs
  let number := fun (p : List Char) =>
    if p.isEmpty ∨ (p.length > 1 ∧ p.head? = some '0') then none
    else match Text.readDigits 10 256 0 p with
      | .ok n => some n
      | .error _ => none
  match parts.map number with
  | [some a, some b, some c, some d] => some [a * 256 + b, c * 256 + d]
  | _ => none

/-- The pieces of an IPv6 address from the left; `fuel` bounds their number. -/
def readPieces : Nat → Ipv6Parts → List Char → Option Ipv6Parts
  | 0, _, _ => none
  | _ + 1, parts, [] => some parts
  | fuel + 1, parts, c :: rest =>
    if parts.pieces.length = 8 then none
    else if c = ':' then
      if parts.compressAt.isSome then none
      else readPieces fuel ⟨parts.pieces ++ [0], some (parts.pieces.length + 1)⟩ rest
    else
      let (value, after) := takeHex 4 0 (c :: rest)
      match after with
      | [] => some { parts with pieces := parts.pieces ++ [value] }
      | '.' :: _ =>
        if after.length = rest.length + 1 ∨ parts.pieces.length > 6 then none
        else (ipv4Tail? (c :: rest)).map fun tail => { parts with pieces := parts.pieces ++ tail }
      | ':' :: after =>
        if after.isEmpty then none
        else readPieces fuel { parts with pieces := parts.pieces ++ [value] } after
      | _ => none

def readIpv6 (cs : List Char) : Except Fault (List Nat) :=
  let start : Option (Ipv6Parts × List Char) :=
    match cs with
    | [] => none
    | [_] => none
    | ':' :: ':' :: rest => some (⟨[0], some 1⟩, rest)
    | ':' :: _ => none
    | cs => some (⟨[], none⟩, cs)
  match start.bind fun s => readPieces (cs.length + 1) s.1 s.2 with
  | none => .error .invalidIpv6
  | some parts =>
    match parts.compressAt with
    | none => if parts.pieces.length = 8 then .ok parts.pieces else .error .invalidIpv6
    | some at_ =>
      .ok (parts.pieces.take at_ ++ List.replicate (8 - parts.pieces.length) 0
        ++ parts.pieces.drop at_)

/-- The first longest run of zeros: its start and its length. -/
def longestZeros (pieces : List Nat) : Nat × Nat :=
  let runAt := fun (i : Nat) => ((pieces.drop i).takeWhile (· == 0)).length
  (List.range pieces.length).foldl
    (fun best i => if runAt i > best.2 then (i, runAt i) else best) (0, 0)

/-- Pieces in hex with colons between them. -/
def pieceChars (pieces : List Nat) : List Char :=
  List.intercalate [':'] (pieces.map (Nat.toDigits 16))

/-- The text of an IPv6 address: the first longest run of two zeros or more is left out. -/
def ipv6Chars (pieces : List Nat) : List Char :=
  let (start, length) := longestZeros pieces
  if length < 2 then pieceChars pieces
  else pieceChars (pieces.take start) ++ [':', ':'] ++ pieceChars (pieces.drop (start + length))

/-! ### Hosts -/

def isForbiddenInDomain (c : Char) : Bool :=
  c.toNat ≤ 0x20 || c.toNat == 0x7F || "#/:<>?@[\\]^|%".toList.contains c

/-- Whether a character cannot stand in a host that is not resolved. -/
def isForbiddenInOpaqueHost (c : Char) : Bool :=
  "\x00\t\n\r #/:<>?@[\\]^|".toList.contains c

def readBracketed (cs : List Char) : Except Fault Host :=
  if cs.getLast? = some ']' then (readIpv6 (cs.drop 1).dropLast).map .ipv6
  else .error .invalidIpv6

/-- A host of a web address; names are ASCII, in lower case. -/
def readHost (cs : List Char) : Except Fault Host :=
  if cs.head? = some '[' then readBracketed cs
  else
    match Utf8.decode? (percentDecode cs) with
    | none => .error .invalidDomain
    | some decoded =>
      let name := decoded.map Char.toLower
      if name.any fun c => isForbiddenInDomain c || c.toNat > 0x7F then .error .invalidDomain
      else if name.isEmpty then .error .emptyHost
      else if endsInNumber name then (readIpv4 name).map .ipv4
      else .ok (.domain name)

def readOpaqueHost (cs : List Char) : Except Fault Host :=
  if cs.head? = some '[' then readBracketed cs
  else if cs.any isForbiddenInOpaqueHost then .error .invalidHostCharacter
  else .ok (.domain cs)

def Host.chars : Host → List Char
  | .domain name => name
  | .ipv4 a =>
    List.intercalate ['.']
      ([a / 16777216, a / 65536 % 256, a / 256 % 256, a % 256].map Text.natChars)
  | .ipv6 pieces => '[' :: (ipv6Chars pieces ++ [']'])

end DeviceGateway.Url
