import DeviceGateway.Yaml.Scalar

/-!
# Nodes of a document

A node is a scalar, a sequence, a map or a reference to an anchored node. Blocks are told apart by
their columns, and inside brackets by marks. A key of a map stands on one line with its colon.
-/

namespace DeviceGateway.Yaml

/-- What stands before a node: the name by which it is referred to, and its tag. -/
structure Properties where
  anchor : Option (List Char) := none
  tag : Option (List Char) := none
  deriving DecidableEq, Repr

/-- A node. A plain scalar may stand for something else than its text. -/
inductive Node where
  | scalar (props : Properties) (plain : Bool) (text : List Char)
  | seq (props : Properties) (items : List Node)
  | map (props : Properties) (members : List (Node × Node))
  | ref (name : List Char)

namespace Node

/-- A node that is not written at all. -/
def absent : Node := .scalar {} true []

/-- A node with properties given on a line before it. -/
def withProperties (props : Properties) : Node → Node
  | scalar p plain text => scalar ⟨p.anchor.or props.anchor, p.tag.or props.tag⟩ plain text
  | seq p items => seq ⟨p.anchor.or props.anchor, p.tag.or props.tag⟩ items
  | map p members => map ⟨p.anchor.or props.anchor, p.tag.or props.tag⟩ members
  | ref name => ref name

end Node

/-! ### Properties -/

def isNameChar (c : Char) : Bool := c.isAlphanum || c == '_' || c == '-'

def readName (cs : List Char) : Option (List Char × List Char) :=
  let name := cs.takeWhile isNameChar
  let rest := cs.drop name.length
  if name.isEmpty then none
  else if endsToken rest || rest.head?.any ("?:,]\x7d%@`".toList.contains ·) then some (name, rest)
  else none

def isTagChar (c : Char) : Bool := isNameChar c || ";/?:@&=+$.!~*'()%".toList.contains c

/-- The tag after its mark, and what follows. Two marks name a tag of the core. -/
def readTag (cs : List Char) : Option (List Char × List Char) :=
  match cs with
  | '<' :: rest =>
    let tag := rest.takeWhile (· ≠ '>')
    match rest.drop tag.length with
    | _ :: after => if tag.isEmpty then none else some (tag, after)
    | [] => none
  | '!' :: rest =>
    let tag := rest.takeWhile isTagChar
    if tag.isEmpty then none
    else some ("tag:yaml.org,2002:".toList ++ tag, rest.drop tag.length)
  | rest =>
    let tag := rest.takeWhile isTagChar
    if (tag.dropWhile isNameChar).head? = some '!' then none
    else some ('!' :: tag, rest.drop tag.length)

/-- The properties of a node, each at most once, and the place after them. -/
def readProperties (flow : Bool) : Nat → Properties → Cursor → Option (Properties × Cursor)
  | 0, props, c => some (props, c)
  | fuel + 1, props, c =>
    match c.chars with
    | '&' :: rest =>
      if props.anchor.isSome then none
      else do
        let (name, after) ← readName rest
        readProperties flow fuel { props with anchor := some name } (c.upTo after).skipBlanks
    | '!' :: rest =>
      if props.tag.isSome then none
      else do
        let (tag, after) ← readTag rest
        if endsToken after || (flow && after.head? = some ',') then
          readProperties flow fuel { props with tag := some tag } (c.upTo after).skipBlanks
        else none
    | _ => some (props, c)

/-! ### Nodes inside brackets -/

def keyLimit : Nat := 1024

/-- Whether what was read between two places may be a key: it stands on one line. -/
def mayBeKey (start stop : Cursor) : Bool :=
  let text := start.between stop
  !text.contains '\n' && text.length ≤ keyLimit

/-- A scalar or a reference, and the place after it; `indent` is the least column of content. -/
def readScalar (flow : Bool) (indent : Nat) (props : Properties) (c : Cursor) :
    Option (Node × Cursor) :=
  match c.chars with
  | '*' :: rest => do
    if props ≠ {} then none
    let (name, after) ← readName rest
    some (.ref name, c.upTo after)
  | '\'' :: rest => do
    let (text, after) ← readSingleQuoted (rest.length + 1) rest
    some (.scalar props false text, c.upTo after)
  | '"' :: rest => do
    let (text, after) ← readDoubleQuoted (rest.length + 1) rest
    some (.scalar props false text, c.upTo after)
  | m :: rest =>
    if (m = '|' ∨ m = '>') ∧ !flow then do
      let (text, after) ← readBlockScalar (m = '>') indent rest
      some (.scalar props false text, c.upTo after)
    else if startsPlain flow (m :: rest) then do
      let (text, after) ← readPlain flow indent (m :: rest)
      some (.scalar props true text, c.upTo after)
    else none
  | [] => none

/-- Whether a colon after a place makes what was read before it a key, inside brackets. -/
def keyColonInFlow? (start stop : Cursor) : Option Cursor :=
  match stop.skipBlanks.chars with
  | ':' :: _ => if mayBeKey start stop then some (stop.skipBlanks.drop 1) else none
  | _ => none

mutual

def readFlow (indent : Nat) : Nat → Cursor → Option (Node × Cursor)
  | 0, _ => none
  | fuel + 1, c => do
    let (props, c) ← readProperties true 2 {} c
    let start ← c.nextInFlow
    match start.chars with
    | '[' :: _ =>
      let (items, after) ← readFlowItems indent fuel (← (start.drop 1).nextInFlow)
      some (.seq props items, after)
    | '\x7b' :: _ =>
      let (members, after) ← readFlowMembers indent fuel (← (start.drop 1).nextInFlow)
      some (.map props members, after)
    | d :: rest =>
      if props ≠ {} ∧ (",]\x7d".toList.contains d ∨ d = ':') then
        some (.scalar props true [], c)
      else if d = '-' ∧ endsToken rest then none
      else readScalar true indent props start
    | [] => none
  termination_by structural fuel => fuel

/-- The value after a colon inside brackets; it may be absent. -/
def readFlowValue (indent : Nat) : Nat → Cursor → Option (Node × Cursor)
  | 0, _ => none
  | fuel + 1, c => do
    let start ← c.nextInFlow
    if start.chars.head?.any (",]\x7d".toList.contains ·) then some (.absent, start)
    else readFlow indent fuel start
  termination_by structural fuel => fuel

/-- A key and its value inside brackets, and whether there is a colon or a mark of a key. -/
def readFlowPair (indent : Nat) : Nat → Cursor → Option (Bool × (Node × Node) × Cursor)
  | 0, _ => none
  | fuel + 1, c =>
    match c.chars with
    | '?' :: rest =>
      if endsToken rest then do
        let (key, afterKey) ← readFlowValue indent fuel (c.drop 1)
        let next ← afterKey.nextInFlow
        if next.chars.head? = some ':' then
          let (value, after) ← readFlowValue indent fuel (next.drop 1)
          some (true, (key, value), after)
        else some (true, (key, .absent), afterKey)
      else none
    | _ => do
      let (key, afterKey) ← readFlow indent fuel c
      match keyColonInFlow? c afterKey with
      | some colon =>
        let (value, after) ← readFlowValue indent fuel colon
        some (true, (key, value), after)
      | none => some (false, (key, .absent), afterKey)
  termination_by structural fuel => fuel

def readFlowItems (indent : Nat) : Nat → Cursor → Option (List Node × Cursor)
  | 0, _ => none
  | fuel + 1, c =>
    match c.chars with
    | ']' :: _ => some ([], c.drop 1)
    | _ => do
      let (paired, pair, after) ← readFlowPair indent fuel c
      let item := if paired then Node.map {} [pair] else pair.1
      let next ← after.nextInFlow
      match next.chars with
      | ']' :: _ => some ([item], next.drop 1)
      | ',' :: _ =>
        let (items, after) ← readFlowItems indent fuel (← (next.drop 1).nextInFlow)
        some (item :: items, after)
      | _ => none
  termination_by structural fuel => fuel

def readFlowMembers (indent : Nat) : Nat → Cursor → Option (List (Node × Node) × Cursor)
  | 0, _ => none
  | fuel + 1, c =>
    match c.chars with
    | '\x7d' :: _ => some ([], c.drop 1)
    | _ => do
      let (_, pair, after) ← readFlowPair indent fuel c
      let next ← after.nextInFlow
      match next.chars with
      | '\x7d' :: _ => some ([pair], next.drop 1)
      | ',' :: _ =>
        let (members, after) ← readFlowMembers indent fuel (← (next.drop 1).nextInFlow)
        some (pair :: members, after)
      | _ => none
  termination_by structural fuel => fuel

end

/-! ### Blocks -/

/-- Whether a mark followed by spacing stands at a place. -/
def Cursor.isMark (mark : Char) (c : Cursor) : Bool :=
  match c.chars with
  | m :: rest => m == mark && endsToken rest
  | [] => false

def readInline (indent fuel : Nat) (props : Properties) (c : Cursor) : Option (Node × Cursor) :=
  match c.chars.head? with
  | some '[' => (readFlow indent fuel c).map fun (n, after) => (n.withProperties props, after)
  | some '\x7b' => (readFlow indent fuel c).map fun (n, after) => (n.withProperties props, after)
  | _ => readScalar false indent props c

/-- A key with its properties, and the place after its colon. -/
def readKey (indent fuel : Nat) (c : Cursor) : Option (Node × Cursor) := do
  let (props, start) ← readProperties false 2 {} c
  let (key, stop) ←
    if props ≠ {} ∧ start.isMark ':' then some (Node.scalar props true [], start)
    else readInline indent fuel props start
  if mayBeKey c stop ∧ stop.skipBlanks.isMark ':' then some (key, stop.skipBlanks.drop 1)
  else none

mutual

/-- A node of a block at its first token; content starts at column `indent`. Where it `opens`, a
block may start on this line; a sequence may stand one column to the left if `outdented`. -/
def readBlock (indent : Nat) (outdented opens : Bool) : Nat → Cursor → Option (Node × Cursor)
  | 0, _ => none
  | fuel + 1, c =>
    if c.isMark '-' then
      if opens ∧ (indent ≤ c.column ∨ (outdented ∧ c.column + 1 = indent)) then
        (readItems c.column fuel c).map fun (items, after) => (.seq {} items, after)
      else none
    else if c.isMark '?' ∨ (opens ∧ (readKey indent fuel c).isSome) then
      if opens then
        (readMembers c.column fuel c).map fun (members, after) => (.map {} members, after)
      else none
    else do
      let (props, start) ← readProperties false 2 {} c
      if props ≠ {} ∧ start.endsLine then
        let (node, after) ← readBelow indent outdented false fuel start
        some (node.withProperties props, after)
      else
        let (node, after) ← readInline indent fuel props start
        if after.endsLine then some (node, after) else none
  termination_by structural fuel => fuel

/-- A node on the lines below, or none if they do not belong to it. Where a block may open on the
line itself, tabs must not precede it. -/
def readBelow (indent : Nat) (outdented tight : Bool) : Nat → Cursor → Option (Node × Cursor)
  | 0, _ => none
  | fuel + 1, c => do
    let (crossed, next) ← c.nextInBlock (!tight)
    if next.chars.isEmpty then some (.absent, c)
    else if !crossed then readBlock indent outdented tight fuel next
    else if indent ≤ next.column ∨ (outdented ∧ next.column + 1 = indent ∧ next.isMark '-') then
      readBlock indent outdented true fuel next
    else some (.absent, c)
  termination_by structural fuel => fuel

/-- The items of a sequence whose marks stand in a column. -/
def readItems (column : Nat) : Nat → Cursor → Option (List Node × Cursor)
  | 0, _ => none
  | fuel + 1, c => do
    let (item, after) ← readBelow (column + 1) false true fuel (c.drop 1)
    let (_, next) ← after.nextInBlock true
    if next.chars.isEmpty ∨ next.column < column then some ([item], after)
    else if next.column = column then
      if next.isMark '-' then
        let (items, after) ← readItems column fuel next
        some (item :: items, after)
      else some ([item], after)
    else none
  termination_by structural fuel => fuel

/-- The members of a map whose keys stand in a column. -/
def readMembers (column : Nat) : Nat → Cursor → Option (List (Node × Node) × Cursor)
  | 0, _ => none
  | fuel + 1, c => do
    let (member, after) ← readMember column fuel c
    let (_, next) ← after.nextInBlock true
    if next.chars.isEmpty ∨ next.column < column then some ([member], after)
    else if next.column = column then
      let (members, after) ← readMembers column fuel next
      some (member :: members, after)
    else none
  termination_by structural fuel => fuel

def readMember (column : Nat) : Nat → Cursor → Option ((Node × Node) × Cursor)
  | 0, _ => none
  | fuel + 1, c =>
    if c.isMark '?' then do
      let (key, afterKey) ← readBelow (column + 1) true true fuel (c.drop 1)
      let (_, next) ← afterKey.nextInBlock true
      if next.column = column ∧ next.isMark ':' then
        let (value, after) ← readBelow (column + 1) true true fuel (next.drop 1)
        some ((key, value), after)
      else some ((key, .absent), afterKey)
    else do
      let (key, colon) ← readKey (column + 1) fuel c
      let (value, after) ← readBelow (column + 1) true false fuel colon
      some ((key, value), after)
  termination_by structural fuel => fuel

end

end DeviceGateway.Yaml
