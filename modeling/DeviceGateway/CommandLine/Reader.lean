import DeviceGateway.CommandLine.Reply
import DeviceGateway.Text.Split

/-!
# Reading arguments

Arguments are taken from the left by the level that has been reached. An option without a value of
its own waits for the next argument, and what was given is looked at only when the next parameter
begins or the level ends. A level that is entered is read to its end before the one above goes on.
Two dashes end the options of a level.
-/

namespace DeviceGateway.CommandLine

/-! ### What is given at a level -/

inductive ValueSource where
  | default
  | environment
  | commandLine
  deriving DecidableEq, Repr

def ValueSource.rank : ValueSource → Nat
  | .default => 0
  | .environment => 1
  | .commandLine => 2

structure Given where
  name : String
  source : ValueSource
  values : List Value
  deriving DecidableEq, Repr

/-- A parameter that was begun; an option without a value waits for one. -/
structure Pending where
  parameter : Parameter
  octets : Option Bytes
  deriving DecidableEq, Repr

structure Reading where
  level : Level
  given : List Given := []
  pending : Option Pending := none
  isPastDashes : Bool := false
  hasOperand : Bool := false
  deriving DecidableEq, Repr

namespace Reading

def given? (r : Reading) (name : String) : Option Given := r.given.find? (·.name == name)

def add (r : Reading) (name : String) (source : ValueSource) (v : Value) : Reading :=
  match r.given? name with
  | some g =>
    { r with
      given := { g with values := g.values ++ [v] } :: r.given.filter (·.name != name) }
  | none => { r with given := ⟨name, source, [v]⟩ :: r.given }

def valueFault (p : Parameter) : ValueFault → UsageFault
  | .empty => .missingValue p
  | .notText => .notText
  | .refused shown reason => .badValue shown p reason

def give (r : Reading) (source : ValueSource) (p : Parameter) (octets : Bytes) :
    Except UsageFault Reading :=
  if !p.isRepeatable && (r.given? p.name).isSome then .error (.repeated p)
  else
    match p.form.read octets with
    | .ok v => .ok (r.add p.name source v)
    | .error f => .error (valueFault p f)

/-- Look at the parameter that was begun. -/
def settle (r : Reading) : Except UsageFault Reading :=
  match r.pending with
  | none => .ok r
  | some ⟨p, none⟩ => .error (.missingValue p)
  | some ⟨p, some octets⟩ => { r with pending := none }.give .commandLine p octets

def start (r : Reading) (p : Parameter) (octets : Option Bytes) : Except UsageFault Reading := do
  .ok { (← r.settle) with pending := some ⟨p, octets⟩ }

/-! ### One argument -/

def equalsSign : UInt8 := 0x3D

/-- An argument that begins with two dashes, which are left out here. -/
def readLong (r : Reading) (body : Bytes) : Except Reply Reading :=
  let name := body.takeWhile (· ≠ equalsSign)
  let value? := (body.dropWhile (· ≠ equalsSign)).tail?
  match Utf8.decodeText? name with
  | none => .error (.fault (.unknownArgument ("--" ++ Utf8.repair name)))
  | some name =>
    match r.level.flags.find? (·.name == name), r.level.option? name, value? with
    | some flag, _, some value => .error (.fault (.surplusValue (Utf8.repair value) flag))
    | some flag, _, none =>
      match r.settle with
      | .ok _ => .error (.ofFlag r.level flag)
      | .error f => .error (.fault f)
    | none, some p, some value =>
      (do (← r.settle).give .commandLine p value).mapError .fault
    | none, some p, none => (r.start p none).mapError .fault
    | none, none, _ => .error (.fault (.unknownArgument ("--" ++ name)))

/-- An argument that begins with one dash, which is left out here. What follows the letter of an
option is its value, with or without an equals sign. -/
def readShort (r : Reading) (body : Bytes) : Except Reply Reading :=
  match Utf8.firstChar? body with
  | none => .error (.fault (.unknownArgument ("-" ++ Utf8.repair body)))
  | some (letter, width) =>
    match r.level.flags.find? (·.letter == letter), r.level.shortOption? letter with
    | some flag, _ =>
      match r.settle with
      | .ok _ => .error (.ofFlag r.level flag)
      | .error f => .error (.fault f)
    | none, some p =>
      match body.drop width with
      | [] => (r.start p none).mapError .fault
      | b :: rest =>
        let value := if b = equalsSign then rest else b :: rest
        (do (← r.settle).give .commandLine p value).mapError .fault
    | none, none => .error (.fault (.unknownArgument ("-" ++ String.singleton letter)))

/-- The fault of an argument that has no place at a level. -/
def misplaced (r : Reading) (arg : Bytes) : UsageFault :=
  let shown := Utf8.repair arg
  if r.isPastDashes && (r.level.child? arg).isSome then .unknownArgument shown
  else if r.level.children = [] then .unknownArgument shown
  else .unknownCommand shown

def readOperand (r : Reading) (arg : Bytes) : Except Reply Reading :=
  match r.level.operand?, r.hasOperand with
  | some p, false =>
    (do .ok { (← r.start p (some arg)) with hasOperand := true }).mapError .fault
  | _, _ => .error (.fault (r.misplaced arg))

def isWaiting (r : Reading) : Bool :=
  match r.pending with
  | some ⟨_, none⟩ => true
  | _ => false

/-- The value that an option waits for, or else an operand. -/
def readValue (r : Reading) (arg : Bytes) : Except Reply Reading :=
  match r.pending with
  | some ⟨p, none⟩ => .ok { r with pending := some ⟨p, some arg⟩ }
  | _ => r.readOperand arg

def readArgument (r : Reading) (arg : Bytes) : Except Reply Reading :=
  if r.isPastDashes then r.readOperand arg
  else
    match arg with
    | [0x2D, 0x2D] => .ok { r with isPastDashes := true }
    | 0x2D :: 0x2D :: body => r.readLong body
    | [0x2D] => r.readValue arg
    | 0x2D :: body => r.readShort body
    | _ => r.readValue arg

def entered? (r : Reading) (arg : Bytes) : Option Level :=
  if r.isPastDashes || r.isWaiting then none else r.level.child? arg

/-! ### The end of a level -/

/-- Give a parameter what the environment holds, if the command line has nothing. -/
def giveFromEnvironment (environment : List (String × String)) (r : Reading) (p : Parameter) :
    Except UsageFault Reading :=
  match r.given? p.name, p.variableName.bind fun n => environment.lookup n with
  | none, some value => r.give .environment p (Utf8.encodeText value)
  | _, _ => .ok r

def giveDefault (r : Reading) (p : Parameter) : Reading :=
  match r.given? p.name, p.default with
  | none, some v => r.add p.name .default v
  | _, _ => r

def missing? (r : Reading) (hasChild : Bool) : Option UsageFault :=
  if r.level.needsChild && !hasChild then
    if r.given.all (·.source == .default) then some (.nothingGiven r.level)
    else some (.missingCommand r.level)
  else
    match r.level.parameters.filter fun p => p.isRequired && (r.given? p.name).isNone with
    | [] => none
    | ps => some (.missingRequired ps)

def finish (environment : List (String × String)) (r : Reading) (hasChild : Bool) :
    Except UsageFault Reading := do
  let r ← r.settle
  let r ← r.level.parameters.foldlM (giveFromEnvironment environment) r
  let r := r.level.parameters.foldl giveDefault r
  match r.missing? hasChild with
  | some f => .error f
  | none => .ok r

end Reading

/-! ### All levels -/

/-- How far a command line has been read: the level reached with those above it, the nearest first,
or the level whose help is asked for. -/
inductive Progress where
  | reading (current : Reading) (above : List Reading)
  | helping (level : Level)
  deriving DecidableEq, Repr

def Progress.step : Progress → Bytes → Except Reply Progress
  | .helping level, arg =>
    match level.child? arg with
    | some child => .ok (.helping child)
    | none => .error (.fault (.unknownCommand (Utf8.repair arg)))
  | .reading r above, arg =>
    match r.entered? arg with
    | some .help => .ok (.helping r.level)
    | some child => .ok (.reading { level := child } (r :: above))
    | none => do .ok (.reading (← r.readArgument arg) above)

/-- End all levels, the deepest first. -/
def finishAll (environment : List (String × String)) :
    Bool → List Reading → Except UsageFault (List Reading)
  | _, [] => .ok []
  | hasChild, r :: above => do
    let r ← r.finish environment hasChild
    .ok (r :: (← finishAll environment true above))

/-- Read all arguments; the levels that were entered come back, the deepest first. -/
def readLevels (environment : List (String × String)) (args : List Bytes) :
    Except Reply (List Reading) := do
  match ← args.foldlM Progress.step (.reading { level := .program } []) with
  | .helping level => .error (.help level)
  | .reading r above => (finishAll environment false (r :: above)).mapError .fault

/-- What a parameter was given by all levels, the deepest first: the deepest level counts, unless
one above has the value from a weightier source. -/
def settled? (name : String) : List Reading → Option Given
  | [] => none
  | r :: above =>
    match r.given? name, settled? name above with
    | none, g => g
    | some g, none => some g
    | some g, some outer => if g.source.rank < outer.source.rank then some outer else some g

end DeviceGateway.CommandLine
