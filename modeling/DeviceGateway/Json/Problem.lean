import DeviceGateway.Shape.Fault

/-!
# Problems of JSON text

Why a text was refused and where. A place is a count of octets: either all that were consumed, or
one more for an octet that was only looked at. Line and column are derived from it, columns
counting octets since the last line break.
-/

namespace DeviceGateway.Json

inductive Fault where
  | endOfList
  | endOfObject
  | endOfString
  | endOfValue
  | expectedColon
  | expectedListCommaOrEnd
  | expectedObjectCommaOrEnd
  | expectedIdent
  | expectedValue
  | invalidEscape
  | invalidNumber
  | numberOutOfRange
  | invalidCodePoint
  | controlCharacter
  | keyMustBeString
  | loneSurrogate
  | trailingComma
  | trailingCharacters
  | endOfHexEscape
  | recursionLimit
  | shape (fault : Shape.Fault)
  deriving DecidableEq, Repr

def Fault.message : Fault → String
  | .endOfList => "EOF while parsing a list"
  | .endOfObject => "EOF while parsing an object"
  | .endOfString => "EOF while parsing a string"
  | .endOfValue => "EOF while parsing a value"
  | .expectedColon => "expected `:`"
  | .expectedListCommaOrEnd => "expected `,` or `]`"
  | .expectedObjectCommaOrEnd => "expected `,` or `\x7d`"
  | .expectedIdent => "expected ident"
  | .expectedValue => "expected value"
  | .invalidEscape => "invalid escape"
  | .invalidNumber => "invalid number"
  | .numberOutOfRange => "number out of range"
  | .invalidCodePoint => "invalid unicode code point"
  | .controlCharacter => "control character (\\u0000-\\u001F) found while parsing a string"
  | .keyMustBeString => "key must be a string"
  | .loneSurrogate => "lone leading surrogate in hex escape"
  | .trailingComma => "trailing comma"
  | .trailingCharacters => "trailing characters"
  | .endOfHexEscape => "unexpected end of hex escape"
  | .recursionLimit => "recursion limit exceeded"
  | .shape f => f.documentMessage

/-- Where a problem lies, by the octets left after the place. -/
inductive Place where
  | consumed (left : Nat)
  | peeked (left : Nat)
  deriving DecidableEq, Repr

structure Problem where
  fault : Fault
  place : Place
  deriving DecidableEq, Repr

def Place.offset (total : Nat) : Place → Nat
  | .consumed left => total - left
  | .peeked left => min total (total - left + 1)

/-- Line (from 1) and column of the end of a text. -/
def lineColumn : Bytes → Nat × Nat → Nat × Nat
  | [], lc => lc
  | b :: rest, (l, c) => if b = 10 then lineColumn rest (l + 1, 0) else lineColumn rest (l, c + 1)

/-- The wording of a problem with its line and column in `input`. -/
def Problem.message (input : Bytes) (p : Problem) : String :=
  let (l, c) := lineColumn (input.take (p.place.offset input.length)) (1, 0)
  p.fault.message ++ " at line " ++ Text.natText l ++ " column " ++ Text.natText c

end DeviceGateway.Json
