import DeviceGateway.Credential
import DeviceGateway.Log
import DeviceGateway.Text.LetterCase

/-!
# Identity registry

An allow-list of identities. Entries of one identity are united: their thumbprints are collected,
and an identity without any thumbprint accepts every certificate.
-/

namespace DeviceGateway

structure RegisteredIdentity where
  deviceId : String := ""
  moduleId : Option String := none
  thumbprints : List String := []
  deriving DecidableEq, Repr

def RegisteredIdentity.key (e : RegisteredIdentity) : String :=
  ClientIdentity.joinedId e.deviceId e.moduleId

/-- Thumbprints in upper case by canonical id, each id once. -/
structure Registry where
  slots : List (String × List String)
  deriving DecidableEq, Repr

namespace Registry

def extend (key : String) (prints : List String) :
    List (String × List String) → List (String × List String)
  | [] => [(key, prints)]
  | (k, ps) :: rest =>
    if k = key then (k, ps ++ prints) :: rest else (k, ps) :: extend key prints rest

def ofEntries (entries : List RegisteredIdentity) : Registry :=
  ⟨entries.foldl (fun slots e => extend e.key (e.thumbprints.map Text.upperAscii) slots) []⟩

def size (r : Registry) : Nat := r.slots.length

def isEmpty (r : Registry) : Bool := r.slots.isEmpty

def accepts (r : Registry) (c : Credential) : Bool :=
  match r.slots.lookup c.identity.id with
  | none => false
  | some prints => prints.isEmpty || prints.contains c.thumbprint

def log (r : Registry) (c : Credential) : Log :=
  match r.slots.lookup c.identity.id with
  | none => [{ area := .registry, level := .debug, message := "Identity not registered",
               fields := [("identity", c.identity.id)] }]
  | some _ =>
    if r.accepts c then []
    else [{ area := .registry, level := .debug, message := "Thumbprint not registered",
            fields := [("identity", c.identity.id), ("thumbprint", c.thumbprint)] }]

end Registry
end DeviceGateway
