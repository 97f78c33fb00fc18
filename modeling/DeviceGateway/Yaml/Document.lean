import DeviceGateway.Text.Split
import DeviceGateway.Yaml.Node

/-!
# Documents

A text holds at most one document, which may be set off by marker lines. References are resolved
to the nodes they name, each name to the last node above that bears it.
-/

namespace DeviceGateway.Yaml

/-! ### Lines -/

/-- The text with every break a line feed. -/
def normalBreaks : List Char → List Char
  | [] => []
  | '\r' :: '\n' :: rest => '\n' :: normalBreaks rest
  | c :: rest =>
    (if "\r\u0085\u2028\u2029".toList.contains c then '\n' else c) :: normalBreaks rest

def isAllowed (c : Char) : Bool :=
  c == '\t' || c == '\n' || c == '\r' || (0x20 ≤ c.toNat && c.toNat ≤ 0x7E) || c.toNat == 0x85
    || (0xA0 ≤ c.toNat && c.toNat != 0xFFFE && c.toNat != 0xFFFF)

def isMarker (marker : String) (line : List Char) : Bool :=
  line.take 3 == marker.toList && endsToken (line.drop 3)

def isEmptyLine (line : List Char) : Bool := (Cursor.mk 0 line).endsLine

/-- Whether a line is a directive: of all directives one that names the version is known. -/
def isDirective (line : List Char) : Bool :=
  line.take 6 == "%YAML ".toList &&
    (["1.1".toList, "1.2".toList].contains
      (((line.drop 6).dropWhile isBlank).takeWhile fun c => !isBlank c)) &&
    isEmptyLine (((line.drop 6).dropWhile isBlank).dropWhile fun c => !isBlank c)

/-! ### The document of a text -/

/-- The lines of a document: the rest of its marker line if it has one, and the lines below. -/
structure Body where
  marked : Option (List Char)
  lines : List (List Char)

/-- The lines up to the next marker, and those from it on. -/
def untilMarker (lines : List (List Char)) : List (List Char) × List (List Char) :=
  let inside := fun (line : List Char) => !isMarker "---" line && !isMarker "..." line
  (lines.takeWhile inside, lines.dropWhile inside)

/-- Whether nothing but markers of an end are left. -/
def isEnd (lines : List (List Char)) : Bool :=
  lines.all fun line => isEmptyLine line || (isMarker "..." line && isEmptyLine (line.drop 3))

/-- The document of some lines, none if there is no token. -/
def findBody (directed : Bool) : List (List Char) → Option (Option Body)
  | [] => if directed then none else some none
  | line :: rest =>
    if isEmptyLine line ∧ !line.any (· == '\t') then findBody directed rest
    else if isMarker "---" line then
      let (inside, after) := untilMarker rest
      if isEnd after then some (some ⟨some (line.drop 3), inside⟩) else none
    else if isDirective line ∧ !directed then findBody true rest
    else if directed then none
    else
      let (inside, after) := untilMarker (line :: rest)
      if isEnd after ∧ !inside.isEmpty then some (some ⟨none, inside⟩) else none

/-- Where the tokens of a document start, and whether a block may open there. -/
def Body.start (b : Body) : Bool × Cursor :=
  match b.marked with
  | none => (true, ⟨0, List.intercalate ['\n'] b.lines⟩)
  | some rest => (false, ⟨3, List.intercalate ['\n'] (rest :: b.lines)⟩)

def Body.read (b : Body) : Option Node := do
  let (opens, start) := b.start
  let fuel := 4 * start.chars.length + 16
  let (crossed, next) ← start.nextInBlock (!opens)
  if next.chars.isEmpty then some .absent
  else
    let (root, after) ← readBlock 0 false (opens || crossed) fuel next
    let (_, final) ← after.nextInBlock true
    if final.chars.isEmpty then some root else none

/-! ### References -/

/-- The nodes by the names they bear, latest first. -/
abbrev Anchors := List (List Char × Node)

/-- The names after a node that may bear one. -/
def Anchors.record (env : Anchors) (props : Properties) (n : Node) : Anchors :=
  match props.anchor with
  | some name => (name, n) :: env
  | none => env

mutual

/-- The node with references resolved, and the names after it. -/
def Node.resolve (env : Anchors) : Node → Option (Node × Anchors)
  | .scalar p plain text => some (.scalar p plain text, env.record p (.scalar p plain text))
  | .seq p items => do
    let (items, env) ← resolveItems env items
    some (.seq p items, Anchors.record env p (.seq p items))
  | .map p members => do
    let (members, env) ← resolveMembers env members
    some (.map p members, Anchors.record env p (.map p members))
  | .ref name => (env.lookup name).map fun n => (n, env)

def resolveItems (env : Anchors) : List Node → Option (List Node × Anchors)
  | [] => some ([], env)
  | n :: rest => do
    let (n, env) ← n.resolve env
    let (rest, env) ← resolveItems env rest
    some (n :: rest, env)

def resolveMembers (env : Anchors) : List (Node × Node) → Option (List (Node × Node) × Anchors)
  | [] => some ([], env)
  | (k, v) :: rest => do
    let (k, env) ← k.resolve env
    let (v, env) ← v.resolve env
    let (rest, env) ← resolveMembers env rest
    some ((k, v) :: rest, env)

end

/-- The root node of the document in a text; the inner `none` is a text without a document. -/
def parse (text : String) : Option (Option Node) := do
  let cs := match text.toList with
    | '\ufeff' :: rest => rest
    | cs => cs
  if !cs.all isAllowed then none
  match ← findBody false (Text.splitOn '\n' (normalBreaks cs)) with
  | none => some none
  | some body =>
    let root ← body.read
    let (root, _) ← root.resolve []
    some (some root)

end DeviceGateway.Yaml
