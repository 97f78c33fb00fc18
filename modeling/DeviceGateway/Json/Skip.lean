import DeviceGateway.Json.Token

/-!
# Skipping JSON values

A member nobody asked for is passed over without being built: its brackets must match and its
tokens must be well formed, but escapes need not name a character, numbers have no range, and
nesting has no limit.
-/

namespace DeviceGateway.Json

/-- The rest of a string whose content is not wanted. -/
def skipString : Bytes → Except Problem Bytes
  | [] => failConsumed .endOfString []
  | b :: rest =>
    if b = 0x22 then .ok rest
    else if b = 0x5C then
      match rest with
      | [] => failConsumed .endOfString []
      | e :: rest =>
        if e = 0x75 then
          match rest with
          | h1 :: h2 :: h3 :: h4 :: rest =>
            match hex4? h1 h2 h3 h4 with
            | none => failConsumed .invalidEscape rest
            | some _ => skipString rest
          | _ => failConsumed .endOfString []
        else if (simpleEscape? e).isSome then skipString rest
        else failConsumed .invalidEscape rest
    else if b < 0x20 then failConsumed .controlCharacter (b :: rest)
    else skipString rest

/-- The exponent part of a number that is not wanted, after its letter. -/
def skipExponent (bs : Bytes) : Except Problem Bytes :=
  let bs := match bs with
    | 0x2B :: rest => rest
    | 0x2D :: rest => rest
    | rest => rest
  match bs with
  | [] => failConsumed .invalidNumber []
  | b :: rest =>
    if isDigit b then .ok (rest.dropWhile isDigit) else failConsumed .invalidNumber rest

/-- What may follow the whole part of a number that is not wanted. -/
def skipFraction (bs : Bytes) : Except Problem Bytes :=
  match bs with
  | 0x2E :: rest =>
    match rest with
    | [] => failPeeked .invalidNumber []
    | b :: rest =>
      if isDigit b then
        match rest.dropWhile isDigit with
        | 0x65 :: rest => skipExponent rest
        | 0x45 :: rest => skipExponent rest
        | rest => .ok rest
      else failPeeked .invalidNumber (b :: rest)
  | 0x65 :: rest => skipExponent rest
  | 0x45 :: rest => skipExponent rest
  | rest => .ok rest

/-- A number that is not wanted, after its sign. -/
def skipNumber : Bytes → Except Problem Bytes
  | [] => failConsumed .invalidNumber []
  | b :: rest =>
    if b = 0x30 then
      match rest with
      | [] => .ok []
      | d :: rest =>
        if isDigit d then failPeeked .invalidNumber (d :: rest) else skipFraction (d :: rest)
    else if isDigit b then skipFraction (rest.dropWhile isDigit)
    else failConsumed .invalidNumber rest

/-- An open bracket around the current place. -/
inductive Bracket where
  | list
  | object
  deriving DecidableEq, Repr

def Bracket.close : Bracket → UInt8
  | .list => 0x5D
  | .object => 0x7D

def skipKey (bs : Bytes) : Except Problem Bytes :=
  match skipBlanks bs with
  | [] => failPeeked .endOfObject []
  | 0x22 :: rest => do
    let rest ← skipString rest
    match skipBlanks rest with
    | 0x3A :: rest => .ok rest
    | [] => failPeeked .endOfObject []
    | rest => failPeeked .expectedColon rest
  | rest => failPeeked .keyMustBeString rest

mutual

/-- Skip a value inside the given brackets, innermost first, and all that closes them. -/
def skipItem (open_ : List Bracket) : Nat → Bytes → Except Problem Bytes
  | 0, _ => failPeeked .endOfValue []
  | fuel + 1, bs =>
    match skipBlanks bs with
    | [] => failPeeked .endOfValue []
    | b :: rest =>
      if b = 0x6E then do skipAfter true open_ fuel (← readWord [0x75, 0x6C, 0x6C] rest)
      else if b = 0x74 then do skipAfter true open_ fuel (← readWord [0x72, 0x75, 0x65] rest)
      else if b = 0x66 then do skipAfter true open_ fuel (← readWord [0x61, 0x6C, 0x73, 0x65] rest)
      else if b = 0x2D then do skipAfter true open_ fuel (← skipNumber rest)
      else if isDigit b then do skipAfter true open_ fuel (← skipNumber (b :: rest))
      else if b = 0x22 then do skipAfter true open_ fuel (← skipString rest)
      else if b = 0x5B then skipAfter false (.list :: open_) fuel rest
      else if b = 0x7B then skipAfter false (.object :: open_) fuel rest
      else failPeeked .expectedValue (b :: rest)

/-- Skip what follows an item (`comma` true) or an opening bracket (`comma` false). -/
def skipAfter (comma : Bool) (open_ : List Bracket) : Nat → Bytes → Except Problem Bytes
  | 0, _ => failPeeked .endOfValue []
  | fuel + 1, bs =>
    match open_ with
    | [] => .ok bs
    | bracket :: outer =>
      match skipBlanks bs with
      | [] => failPeeked (match bracket with | .list => .endOfList | .object => .endOfObject) []
      | b :: rest =>
        if b = 0x2C ∧ comma then
          match bracket with
          | .list => skipItem open_ fuel rest
          | .object => do skipItem open_ fuel (← skipKey rest)
        else if b = bracket.close then skipAfter true outer fuel rest
        else if comma then
          failPeeked (match bracket with
            | .list => .expectedListCommaOrEnd
            | .object => .expectedObjectCommaOrEnd) (b :: rest)
        else match bracket with
          | .list => skipItem open_ fuel (b :: rest)
          | .object => do skipItem open_ fuel (← skipKey (b :: rest))

end

/-- The input after one value that is not wanted. -/
def skipValue (bs : Bytes) : Except Problem Bytes := skipItem [] (2 * bs.length + 2) bs

end DeviceGateway.Json
