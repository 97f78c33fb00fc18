import DeviceGateway.CommandLine.Basic
import DeviceGateway.Config.Layered
import DeviceGateway.Gateway
import DeviceGateway.Transport.Listener

/-!
# The gateway command

The configuration is loaded, changed by what the command line says and checked only then. The
gateway is made of it, its address is bound, and connections are served until a signal comes. All
of it is told in events.
-/

namespace DeviceGateway

structure Surroundings where
  environment : List (String × String)
  files : FileTree
  network : Network
  /-- How many connections are open when the signal to stop comes. -/
  openConnections : Nat := 0

inductive ServingEnd where
  | stopped
  | failed
  | crashed (text : String)
  deriving DecidableEq, Repr

namespace Serving

def programEvent (level : LogLevel) (message : String)
    (fields : List (String × LogValue)) : LogEvent :=
  { area := .program, level, message, fields }

def failure (what reason : String) : LogEvent :=
  programEvent .error (what ++ ": " ++ reason) []

/-- The event before the gateway is made. -/
def startEvent (c : Config) : LogEvent :=
  programEvent .info "Starting edge gateway" [
    ("version", .literal CommandLine.versionText), ("scheme", .text c.listener.scheme),
    ("port", .number c.listener.port.toNat), ("hub", .text c.auth.hubName),
    ("client_cert_auth", .truth c.tls.clientCertAuth)]

/-- Bind the address of a gateway and serve until a signal comes. -/
def runGateway (s : Surroundings) (g : Gateway) : Log × ServingEnd :=
  match g.settings.bind s.network with
  | .error e => ([failure "Gateway error" e.message], .failed)
  | .ok _ =>
    (Listener.boundLog g.settings ++ Listener.signalLog ++ Listener.stopLog s.openConnections
      ++ [programEvent .info "Gateway shutdown complete" []], .stopped)

def runConfig (s : Surroundings) (c : Config) : Log × ServingEnd :=
  let log := startEvent c :: Gateway.configLog s.files c
  match Gateway.ofConfig s.files c with
  | .error (.refused e) =>
    (log ++ [failure "Failed to create gateway" e.message], .failed)
  | .error (.crash text) => (log, .crashed text)
  | .ok g =>
    let (more, ending) := runGateway s g
    (log ++ more, ending)

def configOf (s : Surroundings) (i : Invocation) : Except LoadFault Config :=
  (Config.load s.files (i.config.map Utf8.repair) s.environment).map i.override

def run (s : Surroundings) (i : Invocation) : Log × ServingEnd :=
  match configOf s i with
  | .error f =>
    ([failure "Failed to load configuration" (GatewayError.config f.message).message], .failed)
  | .ok c => runConfig s c

end Serving
end DeviceGateway
