import DeviceGateway.Authority.Configured
import DeviceGateway.Handshake.Context

/-!
# Authorities that follow a script

An authority that answers from a list, the last answer again and again, and remembers whom it was
asked about.
-/

namespace DeviceGateway

/-- The answers still to come, and the ids asked about, latest first. -/
structure AuthorityScript where
  answers : List (Credential → AuthorityEnd)
  asked : List String

namespace AuthorityScript

def ofList (answers : List (Credential → AuthorityEnd)) : AuthorityScript := ⟨answers, []⟩

/-- The answer of a configured authority that no exchange reaches. -/
def answerOf : Authority → Credential → AuthorityEnd
  | .registry r, c => .verdict (r.accepts c)
  | .remote a, c =>
    match RemoteAuthority.verdict (a.consult (fun _ (u : Unit) => (none, u)) c ()).1 with
    | .ok b => .verdict b
    | .error e => .fault e

def ofAuthority (a : Authority) : AuthorityScript := ofList [answerOf a]

/-- Ask a script; an empty one accepts. -/
def ask (c : Credential) (s : AuthorityScript) : AuthorityEnd × AuthorityScript :=
  let asked := c.identity.id :: s.asked
  match s.answers with
  | [] => (.verdict true, ⟨[], asked⟩)
  | [e] => (e c, ⟨[e], asked⟩)
  | e :: rest => (e c, ⟨rest, asked⟩)

end AuthorityScript
end DeviceGateway
