import DeviceGateway.Bytes.Utf8Repair
import DeviceGateway.Text.LetterCase
import DeviceGateway.Text.Numeral

/-!
# Parameters

What can be given on the command line: options by name and operands by position. Arguments are
octets, since the system does not promise that they are texts; the form of a parameter says how its
value is read from them.
-/

namespace DeviceGateway.CommandLine

/-! ### Values -/

inductive ValueForm where
  | text
  /-- A path: octets that need not be a text, but at least one. -/
  | path
  /-- A whole number up to a limit. -/
  | number (limit : Nat)
  deriving DecidableEq, Repr

inductive Value where
  | text (text : String)
  | path (octets : Bytes)
  | number (n : Nat)
  deriving DecidableEq, Repr

/-- Why octets are no value of a form. -/
inductive ValueFault where
  | empty
  | notText
  | refused (shown reason : String)
  deriving DecidableEq, Repr

/-- A whole number up to a limit. Numbers are read as 64-bit integers first. -/
def readNumber (limit : Nat) (text : String) : Except ValueFault Nat :=
  match Text.readInt 10 9223372036854775808 text.toList with
  | .error f => .error (.refused text f.message)
  | .ok i =>
    if 0 ≤ i ∧ i ≤ limit then .ok i.toNat
    else .error (.refused text (Text.intText i ++ " is not in 0..=" ++ Text.natText limit))

def readText (octets : Bytes) : Except ValueFault String :=
  match Utf8.decodeText? octets with
  | some s => .ok s
  | none => .error .notText

def ValueForm.read (form : ValueForm) (octets : Bytes) : Except ValueFault Value :=
  match form with
  | .text => (readText octets).map .text
  | .path => if octets = [] then .error .empty else .ok (.path octets)
  | .number limit => do .ok (.number (← readNumber limit (← readText octets)))

/-! ### Parameters -/

structure Parameter where
  name : String
  /-- The short form of an option. -/
  letter : Option Char := none
  form : ValueForm := .text
  /-- The environment variable that is asked if the command line gives no value. -/
  variableName : Option String := none
  /-- The value if nothing gives one. -/
  default : Option Value := none
  isOperand : Bool := false
  isRequired : Bool := false
  isRepeatable : Bool := false
  deriving DecidableEq, Repr

namespace Parameter

def placeholder (p : Parameter) : String :=
  "<" ++ Text.upperAscii (String.ofList (p.name.toList.map fun c => if c = '-' then '_' else c))
    ++ ">"

def shown (p : Parameter) : String :=
  if p.isOperand then p.placeholder else "--" ++ p.name ++ " " ++ p.placeholder

end Parameter

/-! ### Flags -/

inductive Flag where
  | help
  | version
  deriving DecidableEq, Repr

def Flag.name : Flag → String
  | .help => "help"
  | .version => "version"

def Flag.letter : Flag → Char
  | .help => 'h'
  | .version => 'V'

end DeviceGateway.CommandLine
