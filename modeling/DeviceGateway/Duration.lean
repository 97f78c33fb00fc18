import DeviceGateway.Text.Blank
import DeviceGateway.Text.Numeral

/-!
# Durations and their text

A duration is a count of whole seconds below 2^64 and of nanoseconds below one second. It is
written in seconds or milliseconds and read in seconds, minutes or milliseconds. In messages it
is shown in its largest unit with as many decimal places as it needs.
-/

namespace DeviceGateway

structure Duration where
  seconds : Nat
  nanos : Nat
  seconds_lt : seconds < 18446744073709551616
  nanos_lt : nanos < 1000000000
  deriving DecidableEq, Repr

namespace Duration

def secondsLimit : Nat := 18446744073709551616

def zero : Duration := ⟨0, 0, by decide, by decide⟩

instance : Inhabited Duration := ⟨zero⟩

/-- Whole seconds and nanoseconds, full seconds of the latter carried over. -/
def ofParts? (seconds nanos : Nat) : Option Duration :=
  if h : seconds + nanos / 1000000000 < 18446744073709551616 then
    some ⟨seconds + nanos / 1000000000, nanos % 1000000000, h, Nat.mod_lt _ (by decide)⟩
  else none

def ofSeconds? (seconds : Nat) : Option Duration :=
  if h : seconds < 18446744073709551616 then some ⟨seconds, 0, h, by decide⟩ else none

def ofMillis? (millis : Nat) : Option Duration :=
  if h : millis / 1000 < 18446744073709551616 then
    some ⟨millis / 1000, millis % 1000 * 1000000, h, by
      have := Nat.mod_lt millis (by decide : 1000 > 0)
      omega⟩
  else none

/-- Whole milliseconds within the range, else the longest duration of whole seconds. -/
def ofMillis (millis : Nat) : Duration :=
  (ofMillis? millis).getD ⟨18446744073709551616 - 1, 0, by decide, by decide⟩

/-- Whole seconds within the range, else the longest duration of whole seconds. -/
def ofSeconds (seconds : Nat) : Duration :=
  (ofSeconds? seconds).getD ⟨18446744073709551616 - 1, 0, by decide, by decide⟩

/-- The whole milliseconds past the last full second. -/
def millisPart (d : Duration) : Nat := d.nanos / 1000000

def millis (d : Duration) : Nat := d.seconds * 1000 + d.millisPart

def totalNanos (d : Duration) : Nat := d.seconds * 1000000000 + d.nanos

def isZero (d : Duration) : Bool := d.seconds == 0 && d.nanos == 0

/-! ### Writing -/

/-- Seconds if there is no millisecond past them, else milliseconds; nanoseconds are dropped. -/
def chars (d : Duration) : List Char :=
  if d.millisPart = 0 then Text.natChars d.seconds ++ ['s']
  else Text.natChars d.millis ++ ['m', 's']

def text (d : Duration) : String := String.ofList d.chars

/-! ### Reading -/

inductive Fault where
  | numeral (fault : Text.NumeralFault)
  | tooLarge (text : String)
  deriving DecidableEq, Repr

def Fault.message : Fault → String
  | .numeral f => f.message
  | .tooLarge t => "duration too large: " ++ t

/-- The characters before a given ending. -/
def stripEnd? (ending cs : List Char) : Option (List Char) :=
  if ending.isSuffixOf cs then some (cs.take (cs.length - ending.length)) else none

/-- A count below 2^64, turned into a duration. -/
def readCount (all digits : List Char) (make : Nat → Option Duration) : Except Fault Duration :=
  match Text.readNat 10 secondsLimit digits with
  | .error f => .error (.numeral f)
  | .ok n =>
    match make n with
    | some d => .ok d
    | none => .error (.tooLarge (String.ofList all))

/-- A count with a unit; the endings are tried in the order ms, s, m, none. -/
def readTrimmed (cs : List Char) : Except Fault Duration :=
  match stripEnd? ['m', 's'] cs with
  | some digits => readCount cs digits ofMillis?
  | none =>
    match stripEnd? ['s'] cs with
    | some digits => readCount cs digits ofSeconds?
    | none =>
      match stripEnd? ['m'] cs with
      | some digits => readCount cs digits fun n => ofSeconds? (60 * n)
      | none => readCount cs cs ofSeconds?

def read (s : String) : Except Fault Duration := readTrimmed (Text.trimChars s.toList)

/-! ### Showing -/

/-- The decimal places of `fraction`, `width` of them, without zeros at the end. -/
def fractionChars (width fraction : Nat) : List Char :=
  let digits := Text.natChars fraction
  let padded := List.replicate (width - digits.length) '0' ++ digits
  (padded.reverse.dropWhile (· == '0')).reverse

/-- A count with decimal places and a unit. -/
def shownIn (whole width fraction : Nat) (unit : String) : String :=
  let places := fractionChars width fraction
  Text.natText whole ++ (if places.isEmpty then "" else "." ++ String.ofList places) ++ unit

def shown (d : Duration) : String :=
  if d.seconds > 0 then shownIn d.seconds 9 d.nanos "s"
  else if d.nanos ≥ 1000000 then shownIn (d.nanos / 1000000) 6 (d.nanos % 1000000) "ms"
  else if d.nanos ≥ 1000 then shownIn (d.nanos / 1000) 3 (d.nanos % 1000) "µs"
  else shownIn d.nanos 0 0 "ns"

end Duration
end DeviceGateway
