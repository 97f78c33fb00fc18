import DeviceGateway.Json.Value
import DeviceGateway.Log
import DeviceGateway.Text.Quoted

/-!
# Events on the console

An event is written on one line, either as words for people or as a JSON object. Both name the area
that the event comes from.
-/

namespace DeviceGateway

def LogArea.target : LogArea → String
  | .program => "edge_gateway"
  | .server => "edge_gateway::gateway::server"
  | .settings => "edge_gateway::mtls::settings"
  | .listener => "edge_gateway::mtls::listener"
  | .transport => "edge_gateway::mtls::transport"
  | .verifier => "edge_gateway::mtls::verifier"
  | .handshake => "edge_gateway::mtls::handshake"
  | .subject => "edge_gateway::identity::parser"
  | .bridge => "edge_gateway::mtls::bridge"
  | .chain => "edge_gateway::mtls::cert_manager"
  | .registry => "edge_gateway::identity::authenticator"
  | .remote => "edge_gateway::identity::remote"

def LogValue.inLine : LogValue → String
  | .literal s => Text.quoted s
  | v => v.shown

def LogValue.toJson : LogValue → Json.Value
  | .number n => .int n
  | .truth b => .bool b
  | v => .str v.shown

namespace LogEvent

def words (e : LogEvent) : String :=
  e.level.text ++ " " ++ e.area.target ++ ": " ++ e.message
    ++ String.join (e.fields.map fun f => " " ++ f.1 ++ "=" ++ f.2.inLine)

/-- The line of an event at a time; levels of four letters are moved in by one. -/
def line (time : String) (e : LogEvent) : String :=
  time ++ (if e.level.text.length < 5 then "  " else " ") ++ e.words

def members (e : LogEvent) : List (String × Json.Value) :=
  [("level", .str e.level.text),
   ("fields", .ofMembers (("message", .str e.message) :: e.fields.map fun f => (f.1, f.2.toJson))),
   ("target", .str e.area.target)]

def jsonLine (time : String) (e : LogEvent) : String :=
  (Json.Value.obj (("timestamp", .str time) :: e.members)).compact

end LogEvent
end DeviceGateway
