import DeviceGateway.Number.DecimalText
import DeviceGateway.Shape.Tree
import DeviceGateway.Yaml.Document

/-!
# What nodes stand for

A plain scalar stands for nothing, a flag, a number or its text; every other scalar for its text.
A tag of the core decides instead, and any other tag makes a map of one member. The keys of maps
are texts, and of equal keys the last one counts.
-/

namespace DeviceGateway.Yaml

open Shape

/-! ### Plain scalars -/

/-- Whether a text stands for nothing. -/
def isNull (cs : List Char) : Bool :=
  ["null".toList, "Null".toList, "NULL".toList, "~".toList].contains cs

def readFlag (cs : List Char) : Option Bool :=
  if ["true".toList, "True".toList, "TRUE".toList].contains cs then some true
  else if ["false".toList, "False".toList, "FALSE".toList].contains cs then some false
  else none

/-- Whether a text is made of digits of which a zero is the first, so that it is no number. -/
def isPaddedDigits (cs : List Char) : Bool :=
  let digits := Text.dropSign cs
  1 < digits.length && digits.head? == some '0' && digits.all Char.isDigit

/-- The radix that a mark of two characters names, and the digits after it. -/
def splitRadix : List Char → Option (Nat × List Char)
  | '0' :: 'x' :: rest => some (16, rest)
  | '0' :: 'o' :: rest => some (8, rest)
  | '0' :: 'b' :: rest => some (2, rest)
  | _ => none

def isSigned (cs : List Char) : Bool := cs.head? == some '+' || cs.head? == some '-'

/-- Digits without a sign as a number below a limit. -/
def readUnsigned (radix limit : Nat) (cs : List Char) : Option Nat :=
  if isSigned cs then none else (Text.readNat radix limit cs).toOption

def readNonNegative (limit : Nat) (cs : List Char) : Option Nat :=
  let body := match cs with
    | '+' :: rest => rest
    | cs => cs
  ((splitRadix body).bind fun (radix, digits) => readUnsigned radix limit digits).or
    (if isPaddedDigits cs then none else readUnsigned 10 limit body)

/-- A number with a minus sign, whose amount is at most a limit. -/
def readNegative (limit : Nat) : List Char → Option Int
  | '-' :: body =>
    (((splitRadix body).bind fun (radix, digits) => readUnsigned radix (limit + 1) digits).or
      (if isPaddedDigits body then none else readUnsigned 10 (limit + 1) body)).map
        fun n => -(n : Int)
  | _ => none

def readInteger (cs : List Char) : Option Scalar :=
  ((readNonNegative 18446744073709551616 cs).map .unsigned).or
    (((readNegative 9223372036854775808 cs).map .signed).or
      (((readNonNegative (Nat.pow 2 128) cs).map fun n => .wide n).or
        ((readNegative (Nat.pow 2 127) cs).map .wide)))

def readFloat (cs : List Char) : Option Binary64 :=
  let positive := match cs with
    | '+' :: rest => rest
    | cs => cs
  if cs.head? == some '+' && isSigned positive then none
  else if [".inf".toList, ".Inf".toList, ".INF".toList].contains positive then
    some (.infinite false)
  else if ["-.inf".toList, "-.Inf".toList, "-.INF".toList].contains cs then some (.infinite true)
  else if [".nan".toList, ".NaN".toList, ".NAN".toList].contains cs then some .notANumber
  else (Binary64.ofText? positive).filter (·.isFinite)

def resolvePlain (cs : List Char) : Scalar :=
  if cs.isEmpty || isNull cs then .null
  else match readFlag cs with
    | some b => .bool b
    | none =>
      match readInteger cs with
      | some n => n
      | none =>
        if isPaddedDigits cs then .text (String.ofList cs)
        else match readFloat cs with
          | some x => .float x
          | none => .text (String.ofList cs)

/-! ### Tags -/

/-- Properties of a scalar that is written out, on which the tag of a single mark says nothing. -/
def scalarProperties (p : Properties) (plain : Bool) (cs : List Char) : Properties :=
  if p.tag = some ['!'] ∧ ¬(plain ∧ cs = []) then { p with tag := none } else p

def localTag? (p : Properties) : Option String :=
  match p.tag with
  | some ('!' :: rest) => some (String.ofList (if rest.isEmpty then ['!'] else rest))
  | _ => none

/-- What a scalar stands for, its own tag apart. -/
def resolveUntagged (plain : Bool) (cs : List Char) : Scalar :=
  if plain then resolvePlain cs else .text (String.ofList cs)

/-- What a scalar with a tag of the core or none stands for. -/
def resolveScalar (p : Properties) (plain : Bool) (cs : List Char) : Option Scalar :=
  match p.tag.map String.ofList with
  | none => some (resolveUntagged plain cs)
  | some "tag:yaml.org,2002:bool" => (readFlag cs).map .bool
  | some "tag:yaml.org,2002:int" => readInteger cs
  | some "tag:yaml.org,2002:float" => (readFloat cs).map .float
  | some "tag:yaml.org,2002:null" => if isNull cs then some .null else none
  | some _ => some (.text (String.ofList cs))

/-! ### Trees -/

/-- The most deeply nested collections. -/
def depthLimit : Nat := 128

/-- A member among members in the order of their keys; an equal key is replaced. -/
def insertTree {τ : Type} (key : String) (t : DataTree τ) :
    List (String × DataTree τ) → List (String × DataTree τ)
  | [] => [(key, t)]
  | (k, u) :: rest =>
    if key = k then (k, t) :: rest
    else if key < k then (key, t) :: (k, u) :: rest
    else (k, u) :: insertTree key t rest

def keyText? : Node → Option String
  | .scalar _ _ cs => some (String.ofList cs)
  | _ => none

/-- A tree under a tag that is none of the core. -/
def tagged {τ : Type} (source : τ) (p : Properties) (t : DataTree τ) : DataTree τ :=
  match localTag? p with
  | some name => .map source [(name, t)]
  | none => t

mutual

/-- The tree of a node; collections may be nested `depth` deep. -/
def Node.tree? {τ : Type} (source : τ) (depth : Nat) : Node → Option (DataTree τ)
  | .scalar p plain cs =>
    let p := scalarProperties p plain cs
    match localTag? p with
    | some name => some (.map source [(name, .leaf source (resolveUntagged plain cs))])
    | none => (resolveScalar p plain cs).map (.leaf source)
  | .seq p items =>
    if depth = 0 then none
    else (itemTrees? source (depth - 1) items).map fun ts => tagged source p (.seq source ts)
  | .map p members =>
    if depth = 0 then none
    else (memberTrees? source (depth - 1) [] members).map fun ms =>
      tagged source p (.map source ms)
  | .ref _ => none

def itemTrees? {τ : Type} (source : τ) (depth : Nat) : List Node → Option (List (DataTree τ))
  | [] => some []
  | n :: rest => do
    let t ← n.tree? source depth
    let ts ← itemTrees? source depth rest
    some (t :: ts)

/-- The trees of members, added to those before. -/
def memberTrees? {τ : Type} (source : τ) (depth : Nat) (done : List (String × DataTree τ)) :
    List (Node × Node) → Option (List (String × DataTree τ))
  | [] => some done
  | (k, v) :: rest => do
    let key ← keyText? k
    let t ← v.tree? source depth
    memberTrees? source depth (insertTree key t done) rest

end

/-- The members of the map that a text holds; a text without a document holds an empty one. -/
def members? {τ : Type} (source : τ) (text : String) : Option (List (String × DataTree τ)) := do
  match ← parse text with
  | none => some []
  | some (.map _ members) => memberTrees? source (depthLimit - 1) [] members
  | some (.scalar p plain cs) => if plain && cs.isEmpty && p.tag.isNone then some [] else none
  | some _ => none

end DeviceGateway.Yaml
