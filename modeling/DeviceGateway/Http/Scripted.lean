import DeviceGateway.Http.Exchange

/-!
# Servers that follow a script

A server that answers from a list, refuses when the list is empty, and remembers its requests.
-/

namespace DeviceGateway.Http

/-- The responses still to come, none for a connection closed without one, and the requests so far,
latest first. -/
structure ServerScript where
  responses : List (Option Response)
  requests : List Request
  deriving DecidableEq, Repr

def ServerScript.exchange (serves : Url.WebAddress → Bool) (r : Request) (s : ServerScript) :
    Option Response × ServerScript :=
  match s.responses with
  | [] => (none, s)
  | answer :: rest => if serves r.address then (answer, ⟨rest, r :: s.requests⟩) else (none, s)

end DeviceGateway.Http
