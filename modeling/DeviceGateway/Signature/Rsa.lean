import DeviceGateway.Bytes.Sha256
import DeviceGateway.Der.Element
import DeviceGateway.Signature.Modular

/-!
# RSA signatures

Keys of two primes, and signatures over the SHA-256 digest of a message, padded to the length of
the modulus.
-/

namespace DeviceGateway.Rsa

structure Key where
  modulus : Nat
  publicExponent : Nat
  privateExponent : Nat
  prime1 : Nat
  prime2 : Nat
  deriving DecidableEq, Repr

def bits (n : Nat) : Nat := if n = 0 then 0 else n.log2 + 1

def size (modulus : Nat) : Nat := (bits modulus + 7) / 8

/-- Whether the parts of a key fit: the modulus is the product of the primes and has from 2048 to
`most` binary digits, and the exponents undo each other. -/
def Key.isSound (k : Key) (most : Nat) : Bool :=
  2048 ≤ bits k.modulus && bits k.modulus ≤ most && k.modulus == k.prime1 * k.prime2
    && k.publicExponent % 2 == 1 && 3 ≤ k.publicExponent && k.privateExponent < k.modulus
    && k.publicExponent * k.privateExponent % (k.prime1 - 1) == 1
    && k.publicExponent * k.privateExponent % (k.prime2 - 1) == 1

/-- The nine numbers of a key, the first of which is its version. -/
def readNumbers : Nat → Bytes → Option (List Nat)
  | 0, bs => if bs.isEmpty then some [] else none
  | n + 1, bs => do
    let (content, rest) ← Der.readPrimitive Der.integer bs
    if content.isEmpty ∨ 128 ≤ (content.headD 0).toNat then none
    else
      let more ← readNumbers n rest
      some (Der.ofBigEndian content :: more)

def Key.ofDer? (der : Bytes) : Option Key := do
  let (e, after) ← Der.readTagged Der.sequence der
  match ← readNumbers 9 e.content with
  | [0, modulus, publicExponent, privateExponent, prime1, prime2, _, _, _] =>
    if after.isEmpty then
      some { modulus, publicExponent, privateExponent, prime1, prime2 }
    else none
  | _ => none

/-- The public part of a key in its own encoding. -/
def Key.publicKey (k : Key) : Bytes :=
  Der.writeSequence (Der.writeNatural k.modulus ++ Der.writeNatural k.publicExponent)

/-- What stands before a SHA-256 digest in a padded message. -/
def digestMark : Bytes :=
  [0x30, 0x31, 0x30, 0x0D, 0x06, 0x09, 0x60, 0x86, 0x48, 0x01, 0x65, 0x03, 0x04, 0x02, 0x01, 0x05,
   0x00, 0x04, 0x20]

/-- The padded digest of a message, `size` octets. -/
def pad (size : Nat) (message : Bytes) : Bytes :=
  let tail := digestMark ++ Sha256.digest message
  [0x00, 0x01] ++ List.replicate (size - tail.length - 3) 0xFF ++ [0x00] ++ tail

def Key.sign (k : Key) (message : Bytes) : Bytes :=
  let n := size k.modulus
  Sha256.beBytes n (Modular.pow k.modulus (Der.ofBigEndian (pad n message)) k.privateExponent)

def verify (publicKey message signature : Bytes) : Bool :=
  match Der.readTagged Der.sequence publicKey with
  | some (e, []) =>
    match readNumbers 2 e.content with
    | some [modulus, exponent] =>
      let n := size modulus
      signature.length = n && 2048 ≤ bits modulus &&
        Sha256.beBytes n (Modular.pow modulus (Der.ofBigEndian signature) exponent) == pad n message
    | _ => false
  | _ => false

end DeviceGateway.Rsa
