import DeviceGateway.Json.Value
import DeviceGateway.Shape.Fault

/-!
# Structured data and reading it against a shape

A tree holds structured data, each node with the source it came from. Readers take a tree against
an expected shape. A map is read in the order of its keys, so the first fault by key is the one
reported; a fault names the source of its node and the keys that lead to it.
-/

namespace DeviceGateway.Shape

/-- Structured data; `τ` names sources. The members of a map are in key order. -/
inductive DataTree (τ : Type) where
  | leaf (source : τ) (value : Scalar)
  | seq (source : τ) (items : List (DataTree τ))
  | map (source : τ) (members : List (String × DataTree τ))

namespace DataTree

variable {τ : Type}

def source : DataTree τ → τ
  | leaf t _ => t
  | seq t _ => t
  | map t _ => t

def found : DataTree τ → Found
  | leaf _ v => .scalar v
  | seq _ _ => .sequence
  | map _ _ => .map

mutual

def ofJson (t : τ) : Json.Value → DataTree τ
  | .null => .leaf t .null
  | .bool b => .leaf t (.bool b)
  | .int i => .leaf t (if i < 0 then .signed i else .unsigned i.toNat)
  | .float x => .leaf t (.float x)
  | .str s => .leaf t (.text s)
  | .arr items => .seq t (ofJsonItems t items)
  | .obj members => .map t (ofJsonMembers t members)

def ofJsonItems (t : τ) : List Json.Value → List (DataTree τ)
  | [] => []
  | v :: vs => ofJson t v :: ofJsonItems t vs

def ofJsonMembers (t : τ) : List (String × Json.Value) → List (String × DataTree τ)
  | [] => []
  | (k, v) :: ms => (k, ofJson t v) :: ofJsonMembers t ms

end

end DataTree

/-- A fault with the source of its node and the keys that lead to it, outermost first. -/
structure Located (τ : Type) where
  fault : Fault
  source : τ
  path : List String

/-- Where data is read from. Items past the end of a record are a fault in a document and in
buffered data, and passed over in settings; a single character is a text unless it is buffered;
settings may name a variant by its index. -/
inductive Mode where
  | document
  | settings
  | buffered
  deriving DecidableEq, Repr

abbrev Reader (τ α : Type) := DataTree τ → Except (Located τ) α

section Readers

variable {τ α : Type}

def failAt (t : DataTree τ) (fault : Fault) : Except (Located τ) α := .error ⟨fault, t.source, []⟩

def mismatch (t : DataTree τ) (expected : String) : Except (Located τ) α :=
  failAt t (.invalidType t.found expected)

/-- A key in front of the path of a fault. -/
def under (key : String) : Except (Located τ) α → Except (Located τ) α
  | .ok a => .ok a
  | .error e => .error { e with path := key :: e.path }

def readText (mode : Mode) : Reader τ String
  | .leaf _ (.text s) => .ok s
  | .leaf t (.char c) =>
    if mode = .buffered then mismatch (.leaf t (.char c)) "a string" else .ok (String.singleton c)
  | t => mismatch t "a string"

def readBool : Reader τ Bool
  | .leaf _ (.bool b) => .ok b
  | t => mismatch t "a boolean"

def readBelow (limit : Nat) (name : String) : Reader τ Nat
  | .leaf t (.unsigned n) =>
    if n < limit then .ok n
    else failAt (.leaf t (.unsigned n)) (.invalidValue (.scalar (.unsigned n)) name)
  | .leaf t (.signed i) =>
    if 0 ≤ i ∧ i < limit then .ok i.toNat
    else failAt (.leaf t (.signed i)) (.invalidValue (.scalar (.signed i)) name)
  | t => mismatch t name

def readOptional (read : Reader τ α) : Reader τ (Option α)
  | .leaf _ .null => .ok none
  | t => (read t).map some

def readItems (read : Reader τ α) : Nat → List (DataTree τ) → Except (Located τ) (List α)
  | _, [] => .ok []
  | i, t :: ts => do
    let a ← under (Text.natText i) (read t)
    let rest ← readItems read (i + 1) ts
    return a :: rest

def readSeq (read : Reader τ α) : Reader τ (List α)
  | .seq _ items => readItems read 0 items
  | t => mismatch t "a sequence"

/-- A field of a record: its name, and how its value changes the record. -/
abbrev RecordField (τ α : Type) := String × (α → Reader τ α)

/-- The members of a map as fields of a record; other members are passed over. -/
def readMembers (fields : List (RecordField τ α)) : α → List (String × DataTree τ) →
    Except (Located τ) α
  | a, [] => .ok a
  | a, (key, t) :: rest =>
    match fields.lookup key with
    | none => readMembers fields a rest
    | some set => do readMembers fields (← under key (set a t)) rest

/-- The items of a sequence as the fields of a record in order, with the items past its end. -/
def readFieldItems : List (RecordField τ α) → Nat → α → List (DataTree τ) →
    Except (Located τ) (α × List (DataTree τ))
  | _, _, a, [] => .ok (a, [])
  | [], _, a, ts => .ok (a, ts)
  | f :: fs, i, a, t :: ts => do
    readFieldItems fs (i + 1) (← under (Text.natText i) (f.2 a t)) ts

def elementsInSequence (n : Nat) : String :=
  if n = 1 then "1 element in sequence" else Text.natText n ++ " elements in sequence"

/-- What items past the end of a record mean. -/
def checkSurplus (mode : Mode) (t : DataTree τ) (total surplus : Nat) : Except (Located τ) Unit :=
  if surplus = 0 then .ok ()
  else match mode with
    | .settings => .ok ()
    | .document => failAt t (.invalidLength total "fewer elements in array")
    | .buffered => failAt t (.invalidLength total (elementsInSequence (total - surplus)))

/-- A record whose fields all have defaults: a map by name or a sequence in order. -/
def readRecord (mode : Mode) (name : String) (fields : List (RecordField τ α)) (default : α) :
    Reader τ α
  | .map _ members => readMembers fields default members
  | .seq t items => do
    let (a, surplus) ← readFieldItems fields 0 default items
    checkSurplus mode (.seq t items) items.length surplus.length
    return a
  | t => mismatch t ("struct " ++ name)

def atNode (t : DataTree τ) : Except (Located τ) α → Except (Located τ) α
  | .ok a => .ok a
  | .error e => .error ⟨e.fault, t.source, []⟩

/-- The index of a variant named by a text or, in settings, by its position. -/
def readVariant (mode : Mode) (names : List String) (t : DataTree τ) : Except (Located τ) Nat :=
  let byName := fun (s : String) =>
    match names.findIdx? (· == s) with
    | some i => .ok i
    | none => failAt t (.unknownVariant s names)
  match t with
  | .leaf _ (.text s) => byName s
  | .leaf _ (.char c) => byName (String.singleton c)
  | .leaf _ (.unsigned n) =>
    if mode = .settings then
      if n < names.length then .ok n
      else failAt t (.invalidValue (.scalar (.unsigned n))
        ("variant index 0 <= i < " ++ Text.natText names.length))
    else mismatch t "variant identifier"
  | t => mismatch t "variant identifier"

end Readers

end DeviceGateway.Shape
