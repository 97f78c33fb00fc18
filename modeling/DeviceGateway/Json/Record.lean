import DeviceGateway.Json.Document
import DeviceGateway.Json.Skip

/-!
# Records in JSON text

A record has named fields of known types. It is written as an object, whose other members are
passed over, or as an array of its fields in order. A fault of the whole record lies behind its
closing bracket, a fault of a field behind that field.
-/

namespace DeviceGateway.Json

inductive FieldType where
  | text
  | optionalText
  | flag
  deriving DecidableEq, Repr

structure Field where
  name : String
  type : FieldType
  deriving DecidableEq, Repr

/-- The name of a record and its fields in order. -/
structure RecordShape where
  name : String
  fields : List Field
  deriving DecidableEq, Repr

def FieldType.absent? : FieldType → Option Value
  | .text => none
  | .optionalText => some .null
  | .flag => none

def Number.found : Number → Shape.Found
  | .unsigned n => .scalar (.unsigned n)
  | .signed i => .scalar (.signed i)
  | .float x => .scalar (.float x)

/-- A fault for a token that is not of the wanted type; `bs` starts with the token. -/
def failType {α : Type} (expected : String) (bs : Bytes) : Except Problem α :=
  let fail := fun (found : Shape.Found) (rest : Bytes) =>
    failConsumed (.shape (.invalidType found expected)) rest
  match bs with
  | [] => failPeeked .endOfValue []
  | b :: rest =>
    if b = 0x6E then do fail (.scalar .null) (← readWord [0x75, 0x6C, 0x6C] rest)
    else if b = 0x74 then do fail (.scalar (.bool true)) (← readWord [0x72, 0x75, 0x65] rest)
    else if b = 0x66 then do fail (.scalar (.bool false)) (← readWord [0x61, 0x6C, 0x73, 0x65] rest)
    else if b = 0x2D then do
      let (n, rest) ← readNumber false rest
      fail n.found rest
    else if isDigit b then do
      let (n, rest) ← readNumber true (b :: rest)
      fail n.found rest
    else if b = 0x22 then do
      let (s, rest) ← readString rest
      fail (.scalar (.text s)) rest
    else if b = 0x5B then fail .sequence (b :: rest)
    else if b = 0x7B then fail .map (b :: rest)
    else failPeeked .expectedValue (b :: rest)

def readText (bs : Bytes) : Except Problem (Value × Bytes) :=
  match skipBlanks bs with
  | 0x22 :: rest => do
    let (s, rest) ← readString rest
    return (.str s, rest)
  | rest => failType "a string" rest

def FieldType.read (type : FieldType) (bs : Bytes) : Except Problem (Value × Bytes) :=
  match type with
  | .text => readText bs
  | .optionalText =>
    match skipBlanks bs with
    | 0x6E :: rest => do return (.null, ← readWord [0x75, 0x6C, 0x6C] rest)
    | rest => readText rest
  | .flag =>
    match skipBlanks bs with
    | 0x74 :: rest => do return (.bool true, ← readWord [0x72, 0x75, 0x65] rest)
    | 0x66 :: rest => do return (.bool false, ← readWord [0x61, 0x6C, 0x73, 0x65] rest)
    | rest => failType "a boolean" rest

/-! ### As an object -/

/-- The members read so far, each known field at most once. -/
abbrev Members := List (String × Value)

/-- The input after a closing brace if one comes next, else the input at the next token. -/
def afterBrace (bs : Bytes) : Bytes :=
  match skipBlanks bs with
  | 0x7D :: rest => rest
  | rest => rest

def readFieldMembers (fields : List Field) (found : Members) (first : Bool) :
    Nat → Bytes → Except Problem (Members × Bytes)
  | 0, _ => failPeeked .endOfValue []
  | fuel + 1, bs => do
    match ← readKey first bs with
    | (none, rest) => return (found, rest)
    | (some key, rest) =>
      match fields.find? (·.name == key) with
      | none =>
        let rest ← skipValue (← readColon rest)
        readFieldMembers fields found false fuel rest
      | some field =>
        if (found.lookup key).isSome then
          failConsumed (.shape (.duplicateField key)) (afterBrace rest)
        else
          let (v, rest) ← field.type.read (← readColon rest)
          readFieldMembers fields ((key, v) :: found) false fuel rest

/-- The fields in order; `rest` is what is left after the record. -/
def collectFields (found : Members) (rest : Bytes) : List Field → Except Problem (List Value)
  | [] => .ok []
  | f :: fs =>
    match (found.lookup f.name).or f.type.absent? with
    | none => failConsumed (.shape (.missingField f.name)) rest
    | some v => do return v :: (← collectFields found rest fs)

/-! ### As an array -/

/-- The wording of a record and the number of its fields. -/
def RecordShape.lengthText (shape : RecordShape) : String :=
  let n := shape.fields.length
  "struct " ++ shape.name ++ " with " ++ Text.natText n
    ++ (if n = 1 then " element" else " elements")

/-- The fields of an array; `index` of them are read already. -/
def readFieldItems (shape : RecordShape) (index : Nat) :
    List Field → Bytes → Except Problem (List Value × Bytes)
  | [], bs =>
    match skipBlanks bs with
    | [] => failPeeked .endOfList []
    | 0x5D :: rest => .ok ([], rest)
    | 0x2C :: rest =>
      match skipBlanks rest with
      | 0x5D :: rest => failPeeked .trailingComma (0x5D :: rest)
      | rest => failPeeked .trailingCharacters rest
    | rest => failPeeked .trailingCharacters rest
  | f :: fs, bs =>
    match skipBlanks bs with
    | [] => failPeeked .endOfList []
    | b :: rest =>
      if b = 0x5D then failConsumed (.shape (.invalidLength index shape.lengthText)) rest
      else if b = 0x2C ∧ index ≠ 0 then
        match skipBlanks rest with
        | [] => failPeeked .endOfValue []
        | 0x5D :: rest => failPeeked .trailingComma (0x5D :: rest)
        | rest => do
          let (v, rest) ← f.type.read rest
          let (vs, rest) ← readFieldItems shape (index + 1) fs rest
          return (v :: vs, rest)
      else if index = 0 then do
        let (v, rest) ← f.type.read (b :: rest)
        let (vs, rest) ← readFieldItems shape (index + 1) fs rest
        return (v :: vs, rest)
      else failPeeked .expectedListCommaOrEnd (b :: rest)

/-! ### Whole texts -/

def RecordShape.read (shape : RecordShape) (bs : Bytes) : Except Problem (List Value × Bytes) :=
  match skipBlanks bs with
  | 0x5B :: rest => readFieldItems shape 0 shape.fields rest
  | 0x7B :: rest => do
    let (found, rest) ← readFieldMembers shape.fields [] true (rest.length + 1) rest
    return (← collectFields found rest shape.fields, rest)
  | rest => failType ("struct " ++ shape.name) rest

/-- The values of the fields of the record that is a whole text. -/
def RecordShape.parse (shape : RecordShape) (input : Bytes) : Except Problem (List Value) := do
  let (values, rest) ← shape.read input
  readEnd rest
  return values

end DeviceGateway.Json
