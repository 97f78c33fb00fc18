import DeviceGateway.Config.Document
import DeviceGateway.Number.DecimalText
import DeviceGateway.Text.Split
import DeviceGateway.Yaml.CoreSchema

/-!
# Settings in the environment

A variable whose name starts with a prefix, in any case of letters, gives one setting: the rest of
its name is the path, its parts set off by two underscores, and its text is a value. A text that
is no value as a whole is a text.
-/

namespace DeviceGateway

open Shape

inductive SettingSource where
  | file (shown : String)
  | environment
  deriving DecidableEq, Repr

namespace Environment

def namePrefix : String := "EDGE_GATEWAY_"

/-! ### Values -/

def isSpacing (c : Char) : Bool := " \t\n\r\x0c".toList.contains c

def isBare (c : Char) : Bool := !",[]\x7b\x7d".toList.contains c

def isKeyChar (c : Char) : Bool := c.isAlphanum || c == '_' || c == '-'

/-- What a bare text stands for: a number with a point, a whole number, or itself. -/
def bareScalar (cs : List Char) : Scalar :=
  let asFloat := if cs.contains '.' then Binary64.ofText? cs else none
  match asFloat with
  | some x => .float x
  | none =>
    match Text.readNat 10 18446744073709551616 cs with
    | .ok n => .unsigned n
    | .error _ =>
      match Text.readInt 10 9223372036854775808 cs with
      | .ok i => .signed i
      | .error _ => .text (String.ofList cs)

/-- The characters up to the closing quote, escapes as they stand, and what follows the quote. -/
def quotedPart : List Char → Option (List Char × List Char)
  | [] => none
  | '"' :: rest => some ([], rest)
  | '\\' :: c :: rest => (quotedPart rest).map fun (t, r) => ('\\' :: c :: t, r)
  | c :: rest => (quotedPart rest).map fun (t, r) => (c :: t, r)

def escapes : List (Char × Char) := [
  ('"', '"'), ('\\', '\\'), ('b', '\x08'), ('f', '\x0c'), ('n', '\n'), ('r', '\r'), ('t', '\t')]

def unescape : Nat → List Char → Option (List Char)
  | 0, cs => if cs.isEmpty then some [] else none
  | fuel + 1, cs =>
    match cs with
    | [] => some []
    | '\\' :: 'u' :: rest => do
      let c ← Yaml.hexChar? (rest.take 4) 4
      (unescape fuel (rest.drop 4)).map (c :: ·)
    | '\\' :: 'U' :: rest => do
      let c ← Yaml.hexChar? (rest.take 8) 8
      (unescape fuel (rest.drop 8)).map (c :: ·)
    | '\\' :: c :: rest => do
      let d ← escapes.lookup c
      (unescape fuel rest).map (d :: ·)
    | ['\\'] => none
    | c :: rest =>
      if c = '\t' ∨ (0x20 ≤ c.toNat ∧ c.toNat ≠ 0x7F) then (unescape fuel rest).map (c :: ·)
      else none

/-- A quoted text and what follows it; the opening quote is read. -/
def readQuoted (cs : List Char) : Option (List Char × List Char) := do
  let (inner, rest) ← quotedPart cs
  let text ← unescape inner.length inner
  some (text, rest)

def readKey (cs : List Char) : Option (String × List Char) :=
  match cs with
  | '"' :: rest => (readQuoted rest).map fun (t, r) => (String.ofList t, r)
  | cs =>
    let key := cs.takeWhile isKeyChar
    if key.isEmpty then none else some (String.ofList key, cs.drop key.length)

def readScalar (cs : List Char) : Option (Scalar × List Char) :=
  match cs with
  | 't' :: 'r' :: 'u' :: 'e' :: rest => some (.bool true, rest)
  | 'f' :: 'a' :: 'l' :: 's' :: 'e' :: rest => some (.bool false, rest)
  | '"' :: rest => (readQuoted rest).map fun (t, r) => (.text (String.ofList t), r)
  | '\'' :: c :: '\'' :: rest => some (.char c, rest)
  | '\'' :: _ => none
  | cs =>
    let bare := cs.takeWhile isBare
    some (bareScalar (Text.trimChars bare), cs.drop bare.length)

mutual

def readValue : Nat → List Char → Option (DataTree SettingSource × List Char)
  | 0, _ => none
  | fuel + 1, cs =>
    match cs.dropWhile isSpacing with
    | '[' :: rest => do
      let (items, after) ← readValues fuel rest
      some (.seq .environment items, after.dropWhile isSpacing)
    | '\x7b' :: rest => do
      let (members, after) ← readMembers fuel rest
      let members := members.foldl (fun done m => Yaml.insertTree m.1 m.2 done) []
      some (.map .environment members, after.dropWhile isSpacing)
    | cs => do
      let (v, after) ← readScalar cs
      some (.leaf .environment v, after.dropWhile isSpacing)
  termination_by structural fuel => fuel

def readValues : Nat → List Char → Option (List (DataTree SettingSource) × List Char)
  | 0, _ => none
  | fuel + 1, cs =>
    match cs with
    | ']' :: rest => some ([], rest)
    | cs =>
      match readValue fuel cs with
      | some (t, ',' :: rest) => (readValues fuel rest).map fun (ts, r) => (t :: ts, r)
      | some (t, ']' :: rest) => some ([t], rest)
      | _ => none
  termination_by structural fuel => fuel

def readMembers : Nat → List Char → Option (List (String × DataTree SettingSource) × List Char)
  | 0, _ => none
  | fuel + 1, cs =>
    match cs with
    | '\x7d' :: rest => some ([], rest)
    | cs =>
      match readKey (cs.dropWhile isSpacing) with
      | none => none
      | some (key, rest) =>
        match rest.dropWhile isSpacing with
        | '=' :: rest =>
          match readValue fuel rest with
          | some (t, ',' :: rest) => (readMembers fuel rest).map fun (ms, r) => ((key, t) :: ms, r)
          | some (t, '\x7d' :: rest) => some ([(key, t)], rest)
          | _ => none
        | _ => none
  termination_by structural fuel => fuel

end

/-- The value that the text of a variable stands for. -/
def value (s : String) : DataTree SettingSource :=
  match readValue (2 * s.length + 4) s.toList with
  | some (t, []) => t
  | _ => .leaf .environment (.text s)

/-! ### Names -/

/-- A path from the rest of a name: two underscores are a point, and points part it. -/
def pointed : List Char → List Char
  | '_' :: '_' :: rest => '.' :: pointed rest
  | c :: rest => c :: pointed rest
  | [] => []

def pathOf (name : String) : Option (List String) :=
  let cs := Text.trimChars name.toList
  let n := namePrefix.length
  if Text.sameIgnoringCase (String.ofList (cs.take n)) namePrefix then
    let parts := Text.splitOn '.' (Text.trimChars (pointed (cs.drop n)))
    if parts.any List.isEmpty then none
    else some (parts.map fun p => String.ofList (p.map Char.toLower))
  else none

def nested (t : DataTree SettingSource) : List String → DataTree SettingSource
  | [] => t
  | key :: path => .map .environment [(key, nested t path)]

end Environment
end DeviceGateway
