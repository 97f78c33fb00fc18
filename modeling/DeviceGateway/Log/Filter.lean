import DeviceGateway.Log.Line
import DeviceGateway.Text.Blank
import DeviceGateway.Text.LetterCase
import DeviceGateway.Text.Split

/-!
# Which events are shown

A filter is a list of directives between commas, each a level, an area or both. Of the directives
that are about an event the one with the longest area decides, then the one that names the most
fields, then the last one.
-/

namespace DeviceGateway

/-! ### Levels -/

abbrev LogThreshold := Option LogLevel

def LogThreshold.admits (t : LogThreshold) (level : LogLevel) : Bool :=
  match t with
  | none => false
  | some least => least.rank ≤ level.rank

def LogThreshold.names : List (String × LogThreshold) := [
  ("off", none), ("error", some .error), ("warn", some .warn), ("info", some .info),
  ("debug", some .debug), ("trace", some .trace)]

def LogThreshold.ofText? (text : String) : Option LogThreshold :=
  match Text.readNat 10 18446744073709551616 text.toList with
  | .ok n => (names[n]?).map (·.2)
  | .error _ => (names.find? fun p => Text.sameIgnoringCase p.1 text).map (·.2)

/-! ### Directives -/

inductive DirectiveFault where
  | malformed
  | badLevel
  deriving DecidableEq, Repr

def DirectiveFault.message : DirectiveFault → String
  | .malformed => "invalid filter directive"
  | .badLevel => "error parsing level filter: expected one of \"off\", \"error\", \"warn\", "
      ++ "\"info\", \"debug\", \"trace\", or a number 0-5"

/-- One rule of a filter. A rule about spans is about no event, as events stand in none. -/
structure LogDirective where
  target : Option String := none
  fields : List String := []
  isAboutSpans : Bool := false
  threshold : LogThreshold
  deriving DecidableEq, Repr

namespace LogDirective

/-- The threshold after an equals sign; nothing there stands for everything. -/
def readThreshold (cs : List Char) : Except DirectiveFault LogThreshold :=
  if cs = [] then .ok (some .trace)
  else
    match LogThreshold.ofText? (String.ofList cs) with
    | some t => .ok t
    | none => .error .badLevel

def readAfterBracket (d : LogDirective) : List Char → Except DirectiveFault LogDirective
  | [] => .ok d
  | '=' :: rest => do .ok { d with threshold := ← readThreshold rest }
  | _ => .error .malformed

/-- What stands in brackets: a span, fields in braces, or both. -/
def readBracket (target : Option String) (cs : List Char) : Except DirectiveFault LogDirective :=
  let span := cs.takeWhile fun c => c ≠ ']' ∧ c ≠ '\x7b'
  let d : LogDirective := { target, isAboutSpans := span ≠ [], threshold := some .trace }
  match cs.dropWhile fun c => c ≠ ']' ∧ c ≠ '\x7b' with
  | ']' :: rest => readAfterBracket { d with isAboutSpans := true } rest
  | '\x7b' :: rest =>
    let field := rest.takeWhile (· ≠ '\x7d')
    match rest.dropWhile (· ≠ '\x7d') with
    | '\x7d' :: ']' :: after =>
      if field = [] then .error .malformed
      else
        let name := String.ofList (field.takeWhile (· ≠ '='))
        readAfterBracket
          { d with fields := [name], isAboutSpans := d.isAboutSpans || field.contains '=' } after
    | _ => .error .malformed
  | _ => .error .malformed

/-- Whether a character can begin a directive that is no bracket. -/
def canBegin (c : Char) : Bool :=
  c.isAlphanum || c = '-' || c = ':' || c = '_' || 128 ≤ c.toNat

def read (text : String) : Except DirectiveFault LogDirective :=
  let cs := (Text.trim text).toList
  match cs with
  | [] => .error .malformed
  | '[' :: rest => readBracket none rest
  | c :: _ =>
    if !canBegin c then .error .malformed
    else
      let target := String.ofList (cs.takeWhile fun c => c ≠ '=' ∧ c ≠ '[')
      match cs.dropWhile fun c => c ≠ '=' ∧ c ≠ '[' with
      | '=' :: rest => do .ok { target := some target, threshold := ← readThreshold rest }
      | '[' :: rest => readBracket (some target) rest
      | _ =>
        match LogThreshold.ofText? target with
        | some t => .ok { threshold := t }
        | none => .ok { target := some target, threshold := some .trace }

def isAbout (d : LogDirective) (e : LogEvent) : Bool :=
  !d.isAboutSpans
    && (match d.target with
        | none => true
        | some t => t.toList.isPrefixOf e.area.target.toList)
    && d.fields.all fun f => f == "message" || e.fields.any (·.1 == f)

/-- Whether a directive is at least as special as another. -/
def isSpecialAs (d other : LogDirective) : Bool :=
  let size := fun (x : LogDirective) => (x.target.map fun t => t.utf8ByteSize + 1).getD 0
  size other < size d || (size other == size d && other.fields.length ≤ d.fields.length)

end LogDirective

/-! ### Filters -/

structure LogFilter where
  directives : List LogDirective
  deriving DecidableEq, Repr

namespace LogFilter

def deciding? (f : LogFilter) (e : LogEvent) : Option LogDirective :=
  (f.directives.filter (·.isAbout e)).foldl
    (fun best d =>
      match best with
      | none => some d
      | some b => if d.isSpecialAs b then some d else some b) none

def admits (f : LogFilter) (e : LogEvent) : Bool :=
  match f.deciding? e with
  | none => false
  | some d => LogThreshold.admits d.threshold e.level

def ofDirectives (ds : List LogDirective) : LogFilter :=
  ⟨if ds = [] then [{ threshold := some .error }] else ds⟩

def parts (text : String) : List (String × Except DirectiveFault LogDirective) :=
  ((Text.splitOn ',' text.toList).filter (· ≠ [])).map fun cs =>
    (String.ofList cs, LogDirective.read (String.ofList cs))

def ofText? (text : String) : Option LogFilter :=
  ((parts text).mapM fun (p : String × Except DirectiveFault LogDirective) =>
    p.2.toOption).map ofDirectives

def ofTextLoosely (text : String) : LogFilter :=
  ofDirectives ((parts text).filterMap fun (p : String × Except DirectiveFault LogDirective) =>
    p.2.toOption)

/-- What is said about the parts of a text that are not understood. -/
def complaints (text : String) : List String :=
  (parts text).filterMap fun p =>
    match p.2 with
    | .ok _ => none
    | .error f => some ("ignoring `" ++ p.1 ++ "`: " ++ f.message)

/-- The filter for a level that was asked for, with what is said about it. A filter in the
environment that is understood as a whole goes before the level. -/
def choose (environment : List (String × String)) (level : String) : LogFilter × List String :=
  match (environment.lookup "RUST_LOG").bind ofText? with
  | some f => (f, [])
  | none => (ofTextLoosely level, complaints level)

end LogFilter
end DeviceGateway
