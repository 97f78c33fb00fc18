/-!
# Places in a document

A cursor is a column and the characters that follow. Breaks are line feeds. Between tokens stand
blanks, comments and breaks; where a block may open, a tab must not stand in for indentation.
-/

namespace DeviceGateway.Yaml

/-- A place: its column and what follows. -/
structure Cursor where
  column : Nat
  chars : List Char
  deriving DecidableEq, Repr

def isBlank (c : Char) : Bool := c == ' ' || c == '\t'

/-- Whether a character is a blank or a break. -/
def isSpacing (c : Char) : Bool := isBlank c || c == '\n'

/-- Whether a token may end here: at spacing or at the end. -/
def endsToken : List Char → Bool
  | [] => true
  | c :: _ => isSpacing c

/-- Whether a character stands for structure inside brackets. -/
def isFlowMark (c : Char) : Bool := ",[]\x7b\x7d".toList.contains c

def nextColumn (column : Nat) (c : Char) : Nat := if c = '\n' then 0 else column + 1

/-- The place where only `rest` is left. -/
def Cursor.upTo (c : Cursor) (rest : List Char) : Cursor :=
  ⟨(c.chars.take (c.chars.length - rest.length)).foldl nextColumn c.column, rest⟩

def Cursor.drop (c : Cursor) (n : Nat) : Cursor := ⟨c.column + n, c.chars.drop n⟩

def Cursor.between (c later : Cursor) : List Char :=
  c.chars.take (c.chars.length - later.chars.length)

/-- Skip to the next token: its place, and whether it is on a later line. Tabs are blanks on the
line of the token before; on later lines they are blanks only inside brackets. -/
def skipSpacing (flow : Bool) (tabs comment crossed : Bool) (column : Nat) :
    List Char → Option (Bool × Cursor)
  | [] => some (crossed, ⟨column, []⟩)
  | c :: rest =>
    if c = '\n' then skipSpacing flow flow false true 0 rest
    else if comment then skipSpacing flow tabs true crossed (column + 1) rest
    else if c = '#' then skipSpacing flow tabs true crossed (column + 1) rest
    else if c = ' ' then skipSpacing flow tabs false crossed (column + 1) rest
    else if c = '\t' then
      if tabs then skipSpacing flow tabs false crossed (column + 1) rest else none
    else some (crossed, ⟨column, c :: rest⟩)

/-- The next token inside brackets. -/
def Cursor.nextInFlow (c : Cursor) : Option Cursor :=
  (skipSpacing true true false false c.column c.chars).map (·.2)

/-- The next token of a block, after a token that may be followed by tabs or not. -/
def Cursor.nextInBlock (c : Cursor) (tabs : Bool) : Option (Bool × Cursor) :=
  skipSpacing false tabs false false c.column c.chars

def Cursor.skipBlanks (c : Cursor) : Cursor := c.upTo (c.chars.dropWhile isBlank)

/-- Whether nothing but a comment is left on the line. -/
def Cursor.endsLine (c : Cursor) : Bool :=
  match c.skipBlanks.chars with
  | [] => true
  | d :: _ => d == '\n' || d == '#'

end DeviceGateway.Yaml
