import DeviceGateway.Log.Filter
import DeviceGateway.Program.Certificates
import DeviceGateway.Program.Serving

/-!
# A run of the program

From the arguments to what is printed, what is left in the files and the exit code. The result is a
value: the events among the lines are written with the time by whoever prints them.
-/

namespace DeviceGateway

inductive OutputLine where
  | plain (text : String)
  | words (event : LogEvent)
  | document (event : LogEvent)
  deriving DecidableEq, Repr

structure ProgramEnd where
  files : FileTree
  output : List OutputLine := []
  errors : List String := []
  exitCode : Nat := 0
  deriving DecidableEq, Repr

namespace Program

def logLines (filter : LogFilter) (format : Option String) (log : Log) : List OutputLine :=
  (log.filter filter.admits).map
    (if format = some "json" then OutputLine.document else OutputLine.words)

def ofCommandEnd (errors : List String) (e : CommandEnd) : ProgramEnd :=
  match e.fault with
  | none => { files := e.files, output := e.output.map .plain, errors }
  | some fault =>
    { files := e.files, output := e.output.map .plain, exitCode := 1,
      errors := errors ++ ["Error: " ++ fault] }

def ofServingEnd (files : FileTree) (errors : List String) (output : List OutputLine) :
    ServingEnd → ProgramEnd
  | .stopped => { files, output, errors }
  | .failed => { files, output, errors, exitCode := 1 }
  | .crashed text => { files, output, errors := errors ++ ["", text], exitCode := 101 }

def carryOut (s : Surroundings) (now : Nat) (key : SigningKey) (i : Invocation)
    (hindered : Hindrances := .nowhere) : ProgramEnd :=
  let (filter, complaints) := LogFilter.choose s.environment i.logLevel
  match i.command.bind (CertificateCommand.run? s.files hindered now key i.hubName) with
  | some ended => ofCommandEnd complaints ended
  | none =>
    let (log, ending) := Serving.run s i
    ofServingEnd s.files complaints (logLines filter i.logFormat log) ending

/-- Set up the log of a process, which can be done once. -/
def setUpLog (isSetUp : Bool) : Except GatewayError Unit :=
  if isSetUp then
    .error (.internal ("Failed to install tracing subscriber: "
      ++ "a global default trace dispatcher has already been set"))
  else .ok ()

def run (s : Surroundings) (now : Nat) (key : SigningKey) (args : List Bytes)
    (hindered : Hindrances := .nowhere) : ProgramEnd :=
  match Invocation.read s.environment args with
  | .error reply =>
    { files := s.files, output := reply.output.map .plain, errors := reply.errors,
      exitCode := reply.exitCode }
  | .ok i => carryOut s now key i hindered

end Program
end DeviceGateway
