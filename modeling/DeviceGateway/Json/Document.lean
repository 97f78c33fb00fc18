import DeviceGateway.Json.Token
import DeviceGateway.Json.Value

/-!
# JSON documents as values

Reading a whole text as one value. Nesting is limited to 127 levels, numbers must be finite, and
nothing but blanks may follow the value.
-/

namespace DeviceGateway.Json

def Number.toValue : Number → Value
  | .unsigned n => .int n
  | .signed i => .int i
  | .float x => .float x

/-- The nesting that is still allowed at the top of a document. -/
def nestingLimit : Nat := 128

/-- The next key of an object, or its closing brace. -/
def readKey (first : Bool) (bs : Bytes) : Except Problem ((Option String) × Bytes) :=
  match skipBlanks bs with
  | [] => failPeeked .endOfObject []
  | b :: rest =>
    if b = 0x7D then .ok (none, rest)
    else if b = 0x2C ∧ !first then
      match skipBlanks rest with
      | [] => failPeeked .endOfValue []
      | 0x22 :: rest => do
        let (s, rest) ← readString rest
        return (some s, rest)
      | 0x7D :: rest => failPeeked .trailingComma (0x7D :: rest)
      | rest => failPeeked .keyMustBeString rest
    else if first then
      if b = 0x22 then do
        let (s, rest) ← readString rest
        return (some s, rest)
      else failPeeked .keyMustBeString (b :: rest)
    else failPeeked .expectedObjectCommaOrEnd (b :: rest)

def readColon (bs : Bytes) : Except Problem Bytes :=
  match skipBlanks bs with
  | [] => failPeeked .endOfObject []
  | 0x3A :: rest => .ok rest
  | rest => failPeeked .expectedColon rest

mutual

def readValue (depth : Nat) : Nat → Bytes → Except Problem (Value × Bytes)
  | 0, _ => failPeeked .endOfValue []
  | fuel + 1, bs =>
    match skipBlanks bs with
    | [] => failPeeked .endOfValue []
    | b :: rest =>
      if b = 0x6E then do return (.null, ← readWord [0x75, 0x6C, 0x6C] rest)
      else if b = 0x74 then do return (.bool true, ← readWord [0x72, 0x75, 0x65] rest)
      else if b = 0x66 then do return (.bool false, ← readWord [0x61, 0x6C, 0x73, 0x65] rest)
      else if b = 0x2D then do
        let (n, rest) ← readNumber false rest
        return (n.toValue, rest)
      else if isDigit b then do
        let (n, rest) ← readNumber true (b :: rest)
        return (n.toValue, rest)
      else if b = 0x22 then do
        let (s, rest) ← readString rest
        return (.str s, rest)
      else if b = 0x5B then
        if depth ≤ 1 then failPeeked .recursionLimit (b :: rest)
        else do
          let (items, rest) ← readItems (depth - 1) true fuel rest
          return (.arr items, rest)
      else if b = 0x7B then
        if depth ≤ 1 then failPeeked .recursionLimit (b :: rest)
        else do
          let (members, rest) ← readMembers (depth - 1) true fuel rest
          return (.ofMembers members, rest)
      else failPeeked .expectedValue (b :: rest)

def readItems (depth : Nat) (first : Bool) : Nat → Bytes → Except Problem ((List Value) × Bytes)
  | 0, _ => failPeeked .endOfValue []
  | fuel + 1, bs =>
    match skipBlanks bs with
    | [] => failPeeked .endOfList []
    | b :: rest =>
      if b = 0x5D then .ok ([], rest)
      else if b = 0x2C ∧ !first then
        match skipBlanks rest with
        | [] => failPeeked .endOfValue []
        | 0x5D :: rest => failPeeked .trailingComma (0x5D :: rest)
        | rest => do
          let (v, rest) ← readValue depth fuel rest
          let (vs, rest) ← readItems depth false fuel rest
          return (v :: vs, rest)
      else if first then do
        let (v, rest) ← readValue depth fuel (b :: rest)
        let (vs, rest) ← readItems depth false fuel rest
        return (v :: vs, rest)
      else failPeeked .expectedListCommaOrEnd (b :: rest)

def readMembers (depth : Nat) (first : Bool) :
    Nat → Bytes → Except Problem ((List (String × Value)) × Bytes)
  | 0, _ => failPeeked .endOfValue []
  | fuel + 1, bs => do
    match ← readKey first bs with
    | (none, rest) => return ([], rest)
    | (some key, rest) =>
      let (v, rest) ← readValue depth fuel (← readColon rest)
      let (ms, rest) ← readMembers depth false fuel rest
      return ((key, v) :: ms, rest)

end

def readEnd (bs : Bytes) : Except Problem Unit :=
  match skipBlanks bs with
  | [] => .ok ()
  | rest => failPeeked .trailingCharacters rest

def parse (input : Bytes) : Except Problem Value := do
  let (v, rest) ← readValue nestingLimit (2 * input.length + 2) input
  readEnd rest
  return v

end DeviceGateway.Json
