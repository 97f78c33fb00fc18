import DeviceGateway.Bytes.Hex
import DeviceGateway.Number.Binary64

/-!
# JSON values and their text

A value keeps whole numbers apart from fractional ones. The members of an object are ordered by
key, each key once. The compact text has no blanks; strings escape quotes, backslashes and
control characters only.
-/

namespace DeviceGateway.Json

inductive Value where
  | null
  | bool (b : Bool)
  | int (i : Int)
  | float (x : Binary64)
  | str (s : String)
  | arr (items : List Value)
  | obj (members : List (String × Value))
  deriving Repr

namespace Value

/-- Members with `key` set to `v`, in key order. -/
def insertMember (key : String) (v : Value) : List (String × Value) → List (String × Value)
  | [] => [(key, v)]
  | (k, w) :: rest =>
    if key = k then (k, v) :: rest
    else if key < k then (key, v) :: (k, w) :: rest
    else (k, w) :: insertMember key v rest

/-- An object of the given members; of equal keys the last wins. -/
def ofMembers (members : List (String × Value)) : Value :=
  .obj (members.foldl (fun acc m => insertMember m.1 m.2 acc) [])

def get? (key : String) : Value → Option Value
  | .obj members => members.lookup key
  | _ => none

end Value

/-! ### Compact text -/

def escapeChar (c : Char) : List Char :=
  if c = '"' then ['\\', '"']
  else if c = '\\' then ['\\', '\\']
  else if c = '\x08' then ['\\', 'b']
  else if c = '\x0c' then ['\\', 'f']
  else if c = '\n' then ['\\', 'n']
  else if c = '\r' then ['\\', 'r']
  else if c = '\t' then ['\\', 't']
  else if c.toNat < 0x20 then
    ['\\', 'u', '0', '0', Bytes.hexDigitLower (c.toNat / 16), Bytes.hexDigitLower (c.toNat % 16)]
  else [c]

def stringChars (cs : List Char) : List Char := '"' :: (cs.flatMap escapeChar ++ ['"'])

def commaSeparated : List (List Char) → List Char
  | [] => []
  | [p] => p
  | p :: rest => p ++ ',' :: commaSeparated rest

mutual

def Value.chars : Value → List Char
  | .null => "null".toList
  | .bool b => (if b then "true" else "false").toList
  | .int i => (Text.intText i).toList
  | .float x => x.interchangeText.toList
  | .str s => stringChars s.toList
  | .arr items => '[' :: (commaSeparated (itemsChars items) ++ [']'])
  | .obj members => '\x7b' :: (commaSeparated (membersChars members) ++ ['\x7d'])

def itemsChars : List Value → List (List Char)
  | [] => []
  | v :: rest => v.chars :: itemsChars rest

def membersChars : List (String × Value) → List (List Char)
  | [] => []
  | (k, v) :: rest => (stringChars k.toList ++ ':' :: v.chars) :: membersChars rest

end

def Value.compact (v : Value) : String := String.ofList v.chars

end DeviceGateway.Json
