import DeviceGateway.Bytes.Hex
import DeviceGateway.Yaml.Cursor

/-!
# Written scalars

A scalar is written plain, in single or double quotes, or as a block. Lines of plain and quoted
scalars are folded: one break is a space, and of more the first is dropped.
-/

namespace DeviceGateway.Yaml

/-- What a number of breaks folds to. -/
def folded (breaks : Nat) : List Char :=
  if breaks ≤ 1 then [' '] else List.replicate (breaks - 1) '\n'

/-! ### Plain scalars -/

/-- The part of a plain scalar on one line, and what follows it. `blanks` were read before. -/
def plainLine (flow : Bool) (blanks : List Char) : List Char → Option (List Char × List Char)
  | [] => some ([], [])
  | c :: rest =>
    if c = '\n' then some ([], c :: rest)
    else if isBlank c then plainLine flow (blanks ++ [c]) rest
    else if c = '#' ∧ blanks ≠ [] then some ([], c :: rest)
    else if c = ':' ∧ endsToken rest then some ([], c :: rest)
    else if flow ∧ c = ':' ∧ (rest.take 1).any (fun d => isFlowMark d || d == '?') then none
    else if flow ∧ isFlowMark c then some ([], c :: rest)
    else
      match plainLine flow [] rest with
      | some (text, after) => some (blanks ++ c :: text, after)
      | none => none

/-- The breaks up to the next visible character, its column, and what is left from it on. A tab
must not stand where indentation is due. -/
def lineGap (indent breaks column : Nat) : List Char → Option (Nat × Nat × List Char)
  | [] => some (breaks, column, [])
  | c :: rest =>
    if c = '\n' then lineGap indent (breaks + 1) 0 rest
    else if c = '\t' ∧ 0 < breaks ∧ column < indent then none
    else if isBlank c then lineGap indent breaks (column + 1) rest
    else some (breaks, column, c :: rest)

def plainLines (flow : Bool) (indent : Nat) : Nat → List Char → Option (List Char × List Char)
  | 0, cs => some ([], cs)
  | fuel + 1, cs => do
    let (breaks, column, after) ← lineGap indent 0 0 cs
    if breaks = 0 ∨ (!flow ∧ column < indent) ∨ after.head? = some '#' then some ([], cs)
    else
      let (text, rest) ← plainLine flow [] after
      if text.isEmpty then some ([], cs)
      else
        let (more, rest) ← plainLines flow indent fuel rest
        some (folded breaks ++ text ++ more, rest)

def readPlain (flow : Bool) (indent : Nat) (cs : List Char) : Option (List Char × List Char) := do
  let (text, rest) ← plainLine flow [] cs
  let (more, rest) ← plainLines flow indent rest.length rest
  some (text ++ more, rest)

def startsPlain (flow : Bool) : List Char → Bool
  | [] => false
  | c :: rest =>
    if c = '-' then !((rest.take 1).any isBlank)
    else if c = '?' ∨ c = ':' then !flow && !endsToken rest
    else !isSpacing c && !(",[]\x7b\x7d#&*!|>'\"%@`".toList.contains c)

/-! ### Quoted scalars -/

/-- Spacing inside quotes: it is kept on one line, and folded over breaks. -/
def quotedSpacing (run : List Char) : List Char :=
  let breaks := run.count '\n'
  if breaks = 0 then run else folded breaks

def readSingleQuoted : Nat → List Char → Option (List Char × List Char)
  | 0, _ => none
  | fuel + 1, cs =>
    match cs with
    | [] => none
    | '\'' :: '\'' :: rest => (readSingleQuoted fuel rest).map fun (t, r) => ('\'' :: t, r)
    | '\'' :: rest => some ([], rest)
    | c :: rest =>
      if isSpacing c then
        (readSingleQuoted fuel ((c :: rest).dropWhile isSpacing)).map fun (t, r) =>
          (quotedSpacing ((c :: rest).takeWhile isSpacing) ++ t, r)
      else (readSingleQuoted fuel rest).map fun (t, r) => (c :: t, r)

def escapes : List (Char × Char) := [
  ('0', '\x00'), ('a', '\x07'), ('b', '\x08'), ('t', '\t'), ('\t', '\t'), ('n', '\n'),
  ('v', '\x0b'), ('f', '\x0c'), ('r', '\r'), ('e', '\x1b'), (' ', ' '), ('"', '"'), ('/', '/'),
  ('\\', '\\'), ('N', '\u0085'), ('_', '\u00a0'), ('L', '\u2028'), ('P', '\u2029')]

/-- The number of hex digits after a letter. -/
def escapeWidth : Char → Option Nat
  | 'x' => some 2
  | 'u' => some 4
  | 'U' => some 8
  | _ => none

def hexChar? (digits : List Char) (width : Nat) : Option Char := do
  if digits.length ≠ width then none
  let n ← digits.foldlM (fun acc c => (Bytes.hexValue? c).map (acc * 16 + ·)) 0
  if n.isValidChar then some (Char.ofNat n) else none

def readDoubleQuoted : Nat → List Char → Option (List Char × List Char)
  | 0, _ => none
  | fuel + 1, cs =>
    match cs with
    | [] => none
    | '"' :: rest => some ([], rest)
    | '\\' :: '\n' :: rest =>
      let run := rest.takeWhile isSpacing
      (readDoubleQuoted fuel (rest.dropWhile isSpacing)).map fun (t, r) =>
        (List.replicate (run.count '\n') '\n' ++ t, r)
    | '\\' :: c :: rest =>
      match escapeWidth c with
      | some width =>
        match hexChar? (rest.take width) width with
        | some d => (readDoubleQuoted fuel (rest.drop width)).map fun (t, r) => (d :: t, r)
        | none => none
      | none =>
        match escapes.lookup c with
        | some d => (readDoubleQuoted fuel rest).map fun (t, r) => (d :: t, r)
        | none => none
    | c :: rest =>
      if isSpacing c then
        (readDoubleQuoted fuel ((c :: rest).dropWhile isSpacing)).map fun (t, r) =>
          (quotedSpacing ((c :: rest).takeWhile isSpacing) ++ t, r)
      else (readDoubleQuoted fuel rest).map fun (t, r) => (c :: t, r)

/-! ### Block scalars -/

/-- What happens to the breaks at the end of a block scalar. -/
inductive Chomping where
  | strip
  | clip
  | keep
  deriving DecidableEq, Repr

/-- How a block scalar is written: indentation beyond the parent, if given, and its end. -/
structure BlockHeader where
  extra : Option Nat
  chomping : Chomping
  deriving DecidableEq, Repr

/-- The header after its mark, and what follows; each part once, in any order. -/
def readBlockHeader : Nat → BlockHeader → Bool → List Char → Option (BlockHeader × List Char)
  | 0, h, _, cs => some (h, cs)
  | fuel + 1, h, chomped, cs =>
    match cs with
    | [] => some (h, [])
    | c :: rest =>
      if (c = '+' ∨ c = '-') ∧ !chomped then
        readBlockHeader fuel { h with chomping := if c = '+' then .keep else .strip } true rest
      else if c.isDigit ∧ h.extra = none then
        if c = '0' then none
        else readBlockHeader fuel { h with extra := some (c.toNat - 48) } chomped rest
      else some (h, c :: rest)

/-- Blank lines of a block scalar: their number, and what follows without the indentation of the
next line, of which at most `indent` columns are taken; `column` have been. -/
def blockGap (indent breaks column : Nat) : List Char → Option (Nat × Nat × List Char)
  | [] => some (breaks, column, [])
  | c :: rest =>
    if c = ' ' ∧ column < indent then blockGap indent breaks (column + 1) rest
    else if c = '\t' ∧ column < indent then none
    else if c = '\n' then blockGap indent (breaks + 1) 0 rest
    else some (breaks, column, c :: rest)

/-- The widest indentation of the blank lines and of the first line with text. A tab must not
stand in for indentation. -/
def blockIndent (widest column : Nat) : List Char → Option Nat
  | [] => some (max widest column)
  | c :: rest =>
    if c = ' ' then blockIndent widest (column + 1) rest
    else if c = '\n' then blockIndent (max widest column) 0 rest
    else if c = '\t' then none
    else some (max widest column)

/-- What stands between two lines of a block scalar. A folded one joins lines that do not start
with blanks. -/
def blockJoin (isFolded : Bool) (before after : Bool) (breaks : Nat) : List Char :=
  if isFolded ∧ !before ∧ !after then folded (breaks + 1)
  else List.replicate (breaks + 1) '\n'

/-- The end of a block scalar after its last line. -/
def blockEnd (chomping : Chomping) (broken : Bool) (breaks : Nat) : List Char :=
  match chomping with
  | .strip => []
  | .clip => if broken then ['\n'] else []
  | .keep => (if broken then ['\n'] else []) ++ List.replicate breaks '\n'

/-- The lines of a block scalar from one with text on, and what follows. -/
def blockLines (isFolded : Bool) (chomping : Chomping) (indent : Nat) :
    Nat → List Char → Option (List Char × List Char)
  | 0, _ => none
  | fuel + 1, cs =>
    let text := cs.takeWhile (· ≠ '\n')
    match cs.drop text.length with
    | [] => some (text ++ blockEnd chomping false 0, [])
    | _ :: rest => do
      let (breaks, column, after) ← blockGap indent 0 0 rest
      if column = indent ∧ !after.isEmpty then
        let (more, after') ← blockLines isFolded chomping indent fuel after
        some (text ++ blockJoin isFolded (text.take 1 |>.any isBlank)
          (after.take 1 |>.any isBlank) breaks ++ more, after')
      else some (text ++ blockEnd chomping true breaks, '\n' :: rest)

/-- A block scalar after its mark, and what follows; `indent` is the least column of content. -/
def readBlockScalar (isFolded : Bool) (indent : Nat) (cs : List Char) :
    Option (List Char × List Char) := do
  let (header, rest) ← readBlockHeader 2 ⟨none, .clip⟩ false cs
  if !(Cursor.mk 0 rest).endsLine then none
  match rest.dropWhile (· ≠ '\n') with
  | [] => some ([], [])
  | _ :: lines =>
    let column ← match header.extra with
      | some extra => some (indent - 1 + extra)
      | none => (blockIndent 0 0 lines).map (max · (max indent 1))
    let (breaks, found, after) ← blockGap column 0 0 lines
    if found = column ∧ !after.isEmpty then
      let (text, rest) ← blockLines isFolded header.chomping column cs.length after
      some (List.replicate breaks '\n' ++ text, rest)
    else some (blockEnd header.chomping false breaks, '\n' :: lines)

end DeviceGateway.Yaml
