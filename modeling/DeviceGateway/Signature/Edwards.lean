import DeviceGateway.Bytes.Sha512
import DeviceGateway.Der.Element
import DeviceGateway.Signature.Modular

/-!
# Signatures of the twisted Edwards curve

The curve `-x ^ 2 + y ^ 2 = 1 + d * x ^ 2 * y ^ 2` modulo `2 ^ 255 - 19`, points in four
coordinates, and the signatures Ed25519 over it.
-/

namespace DeviceGateway.Edwards

def prime : Nat := Nat.pow 2 255 - 19

def order : Nat := Nat.pow 2 252 + 27742317777372353535851937790883648493

def d : Nat := 37095705934669439343138083508754565189542113879843219016388785533085940283555

def rootOfMinusOne : Nat := Modular.pow prime 2 ((prime - 1) / 4)

/-- A point: `x` and `y` over `z`, and `t = x * y / z`. -/
structure Point where
  x : Nat
  y : Nat
  z : Nat
  t : Nat
  deriving DecidableEq, Repr

def zero : Point := ⟨0, 1, 1, 0⟩

def base : Point :=
  let x := 15112221349535400772501151409588531511454012693041857206046113283949847762202
  let y := 46316835694926478169428394003475163141307993866256225615783033603165251855960
  ⟨x, y, 1, x * y % prime⟩

def add (p q : Point) : Point :=
  let a := Modular.sub prime p.y p.x * Modular.sub prime q.y q.x % prime
  let b := (p.y + p.x) * (q.y + q.x) % prime
  let c := 2 * p.t * q.t % prime * d % prime
  let e := 2 * p.z * q.z % prime
  let h := Modular.sub prime b a
  let f := Modular.sub prime e c
  let g := (e + c) % prime
  let k := (b + a) % prime
  ⟨h * f % prime, g * k % prime, f * g % prime, h * k % prime⟩

/-- A multiple of a point by doubling; `fuel` bounds the binary digits of the factor. -/
def mulFuel : Nat → Nat → Point → Point
  | 0, _, _ => zero
  | fuel + 1, k, p =>
    if k = 0 then zero
    else
      let rest := mulFuel fuel (k / 2) (add p p)
      if k % 2 = 1 then add p rest else rest

def mul (k : Nat) (p : Point) : Point := mulFuel (k.log2 + 1) k p

/-! ### Encoding -/

def ofLittleEndian (bs : Bytes) : Nat := Der.ofBigEndian bs.reverse

def toLittleEndian (n v : Nat) : Bytes := (Sha256.beBytes n v).reverse

/-- A point: its second coordinate, and the lowest bit of the first in the highest place. -/
def encodePoint (p : Point) : Bytes :=
  let i := Modular.inverse prime p.z
  let x := p.x * i % prime
  let y := p.y * i % prime
  toLittleEndian 32 (y + x % 2 * Nat.pow 2 255)

/-- The first coordinate of a point with a second coordinate and a lowest bit of the first. -/
def recoverX? (y lowest : Nat) : Option Nat :=
  let u := Modular.sub prime (y * y) 1
  let v := (d * (y * y % prime) + 1) % prime
  let uv3 := u * (v * (v * v % prime) % prime) % prime
  let uv7 := uv3 * (v * v % prime * (v * v % prime) % prime) % prime
  let root := uv3 * Modular.pow prime uv7 ((prime - 5) / 8) % prime
  let check := v * (root * root % prime) % prime
  let x? :=
    if check = u then some root
    else if check = Modular.sub prime 0 u then some (root * rootOfMinusOne % prime)
    else none
  x?.bind fun x =>
    if x = 0 ∧ lowest = 1 then none
    else some (if x % 2 = lowest then x else prime - x)

def decodePoint? (bs : Bytes) : Option Point :=
  let n := ofLittleEndian bs
  let y := n % Nat.pow 2 255
  if bs.length = 32 ∧ y < prime then
    (recoverX? y (n / Nat.pow 2 255)).map fun x => ⟨x, y, 1, x * y % prime⟩
  else none

/-! ### Signatures -/

/-- The factor of a seed: bits of its digest, the lowest three and the highest cleared and the next
one set. -/
def factor (seed : Bytes) : Nat :=
  let n := ofLittleEndian ((Sha512.digest seed).take 32)
  n % Nat.pow 2 254 / 8 * 8 + Nat.pow 2 254

def publicKey (seed : Bytes) : Bytes := encodePoint (mul (factor seed) base)

def digestNumber (message : Bytes) : Nat := ofLittleEndian (Sha512.digest message) % order

def sign (seed message : Bytes) : Bytes :=
  let key := publicKey seed
  let r := digestNumber ((Sha512.digest seed).drop 32 ++ message)
  let point := encodePoint (mul r base)
  let s := (r + digestNumber (point ++ key ++ message) * factor seed) % order
  point ++ toLittleEndian 32 s

def verify (key message signature : Bytes) : Bool :=
  let point := signature.take 32
  let s := ofLittleEndian (signature.drop 32)
  match decodePoint? key, decodePoint? point with
  | some a, some r =>
    signature.length = 64 && s < order &&
      encodePoint (mul s base)
        == encodePoint (add r (mul (digestNumber (point ++ key ++ message)) a))
  | _, _ => false

end DeviceGateway.Edwards
