import DeviceGateway.Text.Numeral

/-!
# Log events

A log event has a level, the area of the gateway that it comes from, a message and named fields.
-/

namespace DeviceGateway

inductive LogLevel where
  | trace
  | debug
  | info
  | warn
  | error
  deriving DecidableEq, Repr

def LogLevel.text : LogLevel → String
  | .trace => "TRACE"
  | .debug => "DEBUG"
  | .info => "INFO"
  | .warn => "WARN"
  | .error => "ERROR"

def LogLevel.rank : LogLevel → Nat
  | .trace => 0
  | .debug => 1
  | .info => 2
  | .warn => 3
  | .error => 4

inductive LogArea where
  | program
  | server
  | settings
  | listener
  | transport
  | verifier
  | handshake
  | subject
  | bridge
  | chain
  | registry
  | remote
  deriving DecidableEq, Repr

/-- The value of a field. A literal text stands in quotes where values stand on one line. -/
inductive LogValue where
  | text (text : String)
  | literal (text : String)
  | number (n : Nat)
  | truth (b : Bool)
  deriving DecidableEq, Repr

instance : Coe String LogValue := ⟨.text⟩

def LogValue.shown : LogValue → String
  | text s => s
  | literal s => s
  | number n => Text.natText n
  | truth true => "true"
  | truth false => "false"

/-- One event; its fields keep the order in which they were given. -/
structure LogEvent where
  area : LogArea
  level : LogLevel
  message : String
  fields : List (String × LogValue) := []
  deriving DecidableEq, Repr

abbrev Log := List LogEvent

end DeviceGateway
