import DeviceGateway.Material.Load
import DeviceGateway.Signature.Key

/-!
# Reading and writing signing keys

Private keys in their encodings: the general one, which names its algorithm, and those of curves and
of RSA alone. A key that carries its public half is refused if the halves do not fit.
-/

namespace DeviceGateway

open Certificate (Algorithm)

/-- Which keys are taken: the curves, whether a curve key must carry its public half, and the most
binary digits of an RSA modulus. -/
structure KeyPolicy where
  curves : List NamedCurve
  publicHalf : Bool
  rsaBits : Nat

def KeyPolicy.issuing : KeyPolicy := ⟨[.p256, .p384], true, 4096⟩

def KeyPolicy.serving : KeyPolicy := ⟨NamedCurve.all, false, 8192⟩

namespace SigningKey

/-! ### Writing -/

/-- The encoding of a curve key with its public half. -/
def encodeCurveKey (name : NamedCurve) (secret : Nat) : Bytes :=
  let c := name.curve
  Der.writeSequence (Der.writeNatural 1 ++ Der.writeOctetString (Sha256.beBytes c.size secret)
    ++ Der.writeTagged 1 (Der.writeBitString (c.publicKey secret)))

def encodeRsaKey (k : Rsa.Key) : Bytes :=
  let inverse := Modular.inverse k.prime1 k.prime2
  Der.writeSequence (([0, k.modulus, k.publicExponent, k.privateExponent, k.prime1, k.prime2,
    k.privateExponent % (k.prime1 - 1), k.privateExponent % (k.prime2 - 1), inverse]).flatMap
      Der.writeNatural)

def encode (key : SigningKey) : Bytes :=
  let (algorithm, octets) : Algorithm × Bytes := match key with
    | curve name secret => (curveKeyAlgorithm name, encodeCurveKey name secret)
    | edwards seed => (edwardsAlgorithm, Der.writeOctetString seed)
    | rsa k => (rsaKeyAlgorithm, encodeRsaKey k)
  Der.writeSequence (Der.writeNatural 0 ++ algorithm.encode ++ Der.writeOctetString octets)

/-! ### Reading -/

/-- An optional element below a tag of the context, and what follows it. -/
def readOptional (number : Nat) (bs : Bytes) : Option Bytes × Bytes :=
  match Der.readElement bs with
  | some (e, rest) =>
    if e.tagClass = 2 ∧ e.number = number then (some e.content, rest) else (none, bs)
  | none => (none, bs)

/-- A curve key in the encoding of its own; the curve may be named and must be the given one. -/
def ofCurveKey? (policy : KeyPolicy) (name : NamedCurve) (der : Bytes) : Option SigningKey := do
  let c := name.curve
  let (e, after) ← Der.readTagged Der.sequence der
  let (version, rest) ← Der.readPrimitive Der.integer e.content
  let (octets, rest) ← Der.readPrimitive Der.octetString rest
  let (parameters, rest) := readOptional 0 rest
  let (publicHalf, rest) := readOptional 1 rest
  let secret := Der.ofBigEndian octets
  let fits : Bool := match publicHalf with
    | some bits => bits == Der.writeBitString (c.publicKey secret)
    | none => !policy.publicHalf
  if version = [1] ∧ octets.length = c.size ∧ 0 < secret ∧ secret < c.order ∧ rest.isEmpty
      ∧ after.isEmpty ∧ parameters.all (· == Der.writeObjectId c.id) ∧ fits then
    some (.curve name secret)
  else none

def ofRsaKey? (policy : KeyPolicy) (der : Bytes) : Option SigningKey := do
  let key ← Rsa.Key.ofDer? der
  if key.isSound policy.rsaBits then some (.rsa key) else none

/-- A key of the twisted Edwards curve in the encoding of its own. -/
def ofEdwardsKey? (publicHalf : Option Bytes) (der : Bytes) : Option SigningKey := do
  let (seed, after) ← Der.readPrimitive Der.octetString der
  if seed.length = 32 ∧ after.isEmpty
      ∧ publicHalf.all (· == 0 :: Edwards.publicKey seed) then
    some (.edwards seed)
  else none

def ofGeneral? (policy : KeyPolicy) (der : Bytes) : Option SigningKey := do
  let (e, after) ← Der.readTagged Der.sequence der
  let (version, rest) ← Der.readPrimitive Der.integer e.content
  let (algorithm, rest) ← Der.readTagged Der.sequence rest
  let (octets, rest) ← Der.readPrimitive Der.octetString rest
  let (_, rest) := readOptional 0 rest
  let (publicHalf, rest) := readOptional 1 rest
  let named := Der.writeSequence algorithm.content
  if !after.isEmpty ∨ !rest.isEmpty then none
  else if named = edwardsAlgorithm.encode ∧ (version = [0] ∨ version = [1]) then
    ofEdwardsKey? publicHalf octets
  else if version ≠ [0] then none
  else if named = rsaKeyAlgorithm.encode then ofRsaKey? policy octets
  else
    policy.curves.findSome? fun name =>
      if named = (curveKeyAlgorithm name).encode then ofCurveKey? policy name octets else none

def ofPrivateKey? (policy : KeyPolicy) (key : PrivateKey) : Option SigningKey :=
  match key.form with
  | .general => ofGeneral? policy key.der
  | .rsa => ofRsaKey? policy key.der
  | .ec => policy.curves.findSome? fun name => ofCurveKey? policy name key.der

end SigningKey
end DeviceGateway
