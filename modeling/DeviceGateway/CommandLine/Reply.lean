import DeviceGateway.CommandLine.Level

/-!
# Replies

What a command line is answered with when it is not carried out: the page that it asks for, or what
is wrong with it.
-/

namespace DeviceGateway.CommandLine

inductive UsageFault where
  | unknownCommand (shown : String)
  | unknownArgument (shown : String)
  | missingValue (parameter : Parameter)
  | repeated (parameter : Parameter)
  | surplusValue (value : String) (flag : Flag)
  | badValue (value : String) (parameter : Parameter) (reason : String)
  | notText
  | missingCommand (level : Level)
  /-- Nothing at all was given to a level that needs one below. -/
  | nothingGiven (level : Level)
  | missingRequired (parameters : List Parameter)
  deriving DecidableEq, Repr

def UsageFault.kind : UsageFault → String
  | unknownCommand _ => "InvalidSubcommand"
  | unknownArgument _ => "UnknownArgument"
  | missingValue _ => "InvalidValue"
  | repeated _ => "ArgumentConflict"
  | surplusValue _ _ => "TooManyValues"
  | badValue _ _ _ => "ValueValidation"
  | notText => "InvalidUtf8"
  | missingCommand _ => "MissingSubcommand"
  | nothingGiven _ => "DisplayHelpOnMissingArgumentOrSubcommand"
  | missingRequired _ => "MissingRequiredArgument"

def UsageFault.lines : UsageFault → List String
  | unknownCommand shown => ["error: unrecognized subcommand '" ++ shown ++ "'"]
  | unknownArgument shown => ["error: unexpected argument '" ++ shown ++ "' found"]
  | missingValue p =>
    ["error: a value is required for '" ++ p.shown ++ "' but none was supplied"]
  | repeated p => ["error: the argument '" ++ p.shown ++ "' cannot be used multiple times"]
  | surplusValue value flag =>
    ["error: unexpected value '" ++ value ++ "' for '--" ++ flag.name
      ++ "' found; no more were expected"]
  | badValue value p reason =>
    ["error: invalid value '" ++ value ++ "' for '" ++ p.shown ++ "': " ++ reason]
  | notText => ["error: invalid UTF-8 was detected in one or more arguments"]
  | missingCommand level =>
    ["error: '" ++ level.fullName ++ "' requires a subcommand but one was not provided"]
  | nothingGiven level => level.helpPage
  | missingRequired ps =>
    "error: the following required arguments were not provided:" :: ps.map fun p => "  " ++ p.shown

inductive Reply where
  | help (level : Level)
  | version
  | fault (fault : UsageFault)
  deriving DecidableEq, Repr

def versionText : String := "0.1.0"

namespace Reply

def ofFlag (level : Level) : Flag → Reply
  | .help => .help level
  | .version => .version

def kind : Reply → String
  | help _ => "DisplayHelp"
  | version => "DisplayVersion"
  | fault f => f.kind

def output : Reply → List String
  | help level => level.helpPage
  | version => [Level.program.name ++ " " ++ versionText]
  | fault _ => []

def errors : Reply → List String
  | fault f => f.lines
  | _ => []

def exitCode : Reply → Nat
  | fault _ => 2
  | _ => 0

end Reply
end DeviceGateway.CommandLine
