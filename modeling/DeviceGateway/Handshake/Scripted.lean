import DeviceGateway.Handshake.Verifier

/-!
# Validations that follow a script

A validation of the TLS library that answers from two lists, the last answers again and again, and
counts how often it was asked.
-/

namespace DeviceGateway

/-- The answers still to come about chains and about signatures, and how many were given. -/
structure ValidationScript where
  chain : List (Except TlsError Unit)
  signature : List (Except TlsError Unit)
  chainCalls : Nat := 0
  signatureCalls : Nat := 0

namespace ValidationScript

def next : List (Except TlsError Unit) → Except TlsError Unit × List (Except TlsError Unit)
  | [] => (.ok (), [])
  | [a] => (a, [a])
  | a :: rest => (a, rest)

def verifier (hints : List Bytes) (schemes : List Nat) : BaseVerifier ValidationScript where
  validateChain := fun _ _ s =>
    ((next s.chain).1, { s with chain := (next s.chain).2, chainCalls := s.chainCalls + 1 })
  checkSignature := fun _ _ s =>
    ((next s.signature).1,
      { s with signature := (next s.signature).2, signatureCalls := s.signatureCalls + 1 })
  hints
  schemes

end ValidationScript
end DeviceGateway
