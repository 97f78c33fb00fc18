import DeviceGateway.Bytes.Sha512
import DeviceGateway.Der.Element
import DeviceGateway.Signature.Modular

/-!
# Curves and their signatures

Curves `y ^ 2 = x ^ 3 + a * x + b` over a prime field, points in three coordinates so that sums
need no inverse, and the signatures of such curves over a digest.
-/

namespace DeviceGateway

/-- A curve with a base point, and the digest that its signatures use. -/
structure Curve where
  id : Bytes
  signatureId : Bytes
  prime : Nat
  a : Nat
  b : Nat
  order : Nat
  baseX : Nat
  baseY : Nat
  /-- The number of octets of a coordinate. -/
  size : Nat
  digest : Bytes → Bytes

namespace Curve

/-- The curve secp256r1, 1.2.840.10045.3.1.7, with SHA-256. -/
def p256 : Curve where
  id := [0x2A, 0x86, 0x48, 0xCE, 0x3D, 0x03, 0x01, 0x07]
  signatureId := [0x2A, 0x86, 0x48, 0xCE, 0x3D, 0x04, 0x03, 0x02]
  prime := 0xFFFFFFFF00000001000000000000000000000000FFFFFFFFFFFFFFFFFFFFFFFF
  a := 0xFFFFFFFF00000001000000000000000000000000FFFFFFFFFFFFFFFFFFFFFFFC
  b := 0x5AC635D8AA3A93E7B3EBBD55769886BC651D06B0CC53B0F63BCE3C3E27D2604B
  order := 0xFFFFFFFF00000000FFFFFFFFFFFFFFFFBCE6FAADA7179E84F3B9CAC2FC632551
  baseX := 0x6B17D1F2E12C4247F8BCE6E563A440F277037D812DEB33A0F4A13945D898C296
  baseY := 0x4FE342E2FE1A7F9B8EE7EB4A7C0F9E162BCE33576B315ECECBB6406837BF51F5
  size := 32
  digest := Sha256.digest

/-- The curve secp384r1, 1.3.132.0.34, with SHA-384. -/
def p384 : Curve where
  id := [0x2B, 0x81, 0x04, 0x00, 0x22]
  signatureId := [0x2A, 0x86, 0x48, 0xCE, 0x3D, 0x04, 0x03, 0x03]
  prime := 0xFFFFFFFFFFFFFFFFFFFFFFFFFFFFFFFFFFFFFFFFFFFFFFFFFFFFFFFFFFFFFFFEFFFFFFFF0000000000000000FFFFFFFF
  a := 0xFFFFFFFFFFFFFFFFFFFFFFFFFFFFFFFFFFFFFFFFFFFFFFFFFFFFFFFFFFFFFFFEFFFFFFFF0000000000000000FFFFFFFC
  b := 0xB3312FA7E23EE7E4988E056BE3F82D19181D9C6EFE8141120314088F5013875AC656398D8A2ED19D2A85C8EDD3EC2AEF
  order := 0xFFFFFFFFFFFFFFFFFFFFFFFFFFFFFFFFFFFFFFFFFFFFFFFFC7634D81F4372DDF581A0DB248B0A77AECEC196ACCC52973
  baseX := 0xAA87CA22BE8B05378EB1C71EF320AD746E1D3B628BA79B9859F741E082542A385502F25DBF55296C3A545E3872760AB7
  baseY := 0x3617DE4A96262C6F5D9E98BF9292DC29F8F41DBD289A147CE9DA3113B5F0B8C00A60B1CE1D7E819D7A431D7C90EA0E5F
  size := 48
  digest := Sha512.digest384

/-- The curve secp521r1, 1.3.132.0.35, with SHA-512. -/
def p521 : Curve where
  id := [0x2B, 0x81, 0x04, 0x00, 0x23]
  signatureId := [0x2A, 0x86, 0x48, 0xCE, 0x3D, 0x04, 0x03, 0x04]
  prime := Nat.pow 2 521 - 1
  a := Nat.pow 2 521 - 4
  b := 0x0051953EB9618E1C9A1F929A21A0B68540EEA2DA725B99B315F3B8B489918EF109E156193951EC7E937B1652C0BD3BB1BF073573DF883D2C34F1EF451FD46B503F00
  order := 0x1FFFFFFFFFFFFFFFFFFFFFFFFFFFFFFFFFFFFFFFFFFFFFFFFFFFFFFFFFFFFFFFFFA51868783BF2F966B7FCC0148F709A5D03BB5C9B8899C47AEBB6FB71E91386409
  baseX := 0x00C6858E06B70404E9CD9E3ECB662395B4429C648139053FB521F828AF606B4D3DBAA14B5E77EFE75928FE1DC127A2FFA8DE3348B3C1856A429BF97E7E31C2E5BD66
  baseY := 0x011839296A789A3BC0045C8A5FB42C7D1BD998F54449579B446817AFBD17273E662C97EE72995EF42640C550B9013FAD0761353C7086A272C24088BE94769FD16650
  size := 66
  digest := Sha512.digest

/-! ### Points -/

/-- A point: `x` over `z ^ 2` and `y` over `z ^ 3`, or no finite point if `z` is zero. -/
structure Point where
  x : Nat
  y : Nat
  z : Nat
  deriving DecidableEq, Repr

def zero : Point := ⟨1, 1, 0⟩

def base (c : Curve) : Point := ⟨c.baseX, c.baseY, 1⟩

def double (c : Curve) (p : Point) : Point :=
  if p.z = 0 ∨ p.y = 0 then zero
  else
    let m := c.prime
    let yy := p.y * p.y % m
    let s := 4 * p.x * yy % m
    let zz := p.z * p.z % m
    let slope := (3 * p.x * p.x + c.a * (zz * zz % m)) % m
    let x := Modular.sub m (slope * slope) (2 * s)
    let y := Modular.sub m (slope * Modular.sub m s x) (8 * (yy * yy))
    ⟨x, y, 2 * p.y * p.z % m⟩

def add (c : Curve) (p q : Point) : Point :=
  if p.z = 0 then q
  else if q.z = 0 then p
  else
    let m := c.prime
    let pzz := p.z * p.z % m
    let qzz := q.z * q.z % m
    let u1 := p.x * qzz % m
    let u2 := q.x * pzz % m
    let s1 := p.y * (q.z * qzz % m) % m
    let s2 := q.y * (p.z * pzz % m) % m
    if u1 = u2 then (if s1 = s2 then c.double p else zero)
    else
      let h := Modular.sub m u2 u1
      let r := Modular.sub m s2 s1
      let hh := h * h % m
      let hhh := h * hh % m
      let v := u1 * hh % m
      let x := Modular.sub m (r * r) (hhh + 2 * v)
      let y := Modular.sub m (r * Modular.sub m v x) (s1 * hhh)
      ⟨x, y, h * (p.z * q.z % m) % m⟩

/-- A multiple of a point by doubling; `fuel` bounds the binary digits of the factor. -/
def mulFuel (c : Curve) : Nat → Nat → Point → Point
  | 0, _, _ => zero
  | fuel + 1, k, p =>
    if k = 0 then zero
    else
      let rest := mulFuel c fuel (k / 2) (c.double p)
      if k % 2 = 1 then c.add p rest else rest

def mul (c : Curve) (k : Nat) (p : Point) : Point := c.mulFuel (k.log2 + 1) k p

def coordinates? (c : Curve) (p : Point) : Option (Nat × Nat) :=
  if p.z = 0 then none
  else
    let i := Modular.inverse c.prime p.z
    let ii := i * i % c.prime
    some (p.x * ii % c.prime, p.y * (ii * i % c.prime) % c.prime)

def contains (c : Curve) (x y : Nat) : Bool :=
  x < c.prime && y < c.prime && y * y % c.prime == (x * x * x + c.a * x + c.b) % c.prime

/-! ### Encoding points -/

/-- A point in full: a mark and both coordinates. -/
def encodePoint (c : Curve) (p : Point) : Bytes :=
  match c.coordinates? p with
  | none => [0]
  | some (x, y) => 0x04 :: (Sha256.beBytes c.size x ++ Sha256.beBytes c.size y)

def decodePoint? (c : Curve) : Bytes → Option Point
  | 0x04 :: rest =>
    let x := Der.ofBigEndian (rest.take c.size)
    let y := Der.ofBigEndian (rest.drop c.size)
    if rest.length = 2 * c.size ∧ c.contains x y then some ⟨x, y, 1⟩ else none
  | _ => none

def publicKey (c : Curve) (secret : Nat) : Bytes := c.encodePoint (c.mul secret c.base)

/-! ### Signatures -/

/-- The number that a digest stands for: its leading bits, as many as the order has. -/
def digestNumber (c : Curve) (digest : Bytes) : Nat :=
  Der.ofBigEndian digest >>> (8 * digest.length - (c.order.log2 + 1))

/-- The `n`-th number that a secret is blinded with; it depends on the secret and the digest. -/
def blind (c : Curve) (secret : Nat) (digest : Bytes) (n : Nat) : Nat :=
  let block := fun (i : Nat) =>
    Sha512.digest (Sha256.beBytes c.size secret ++ digest ++ [UInt8.ofNat n, UInt8.ofNat i])
  Der.ofBigEndian (block 0 ++ block 1) % (c.order - 1) + 1

/-- The two numbers of a signature; `fuel` bounds the blinds that are tried. -/
def signNumbers (c : Curve) (secret : Nat) (digest : Bytes) : Nat → Nat × Nat
  | 0 => (0, 0)
  | fuel + 1 =>
    let k := c.blind secret digest fuel
    match c.coordinates? (c.mul k c.base) with
    | none => signNumbers c secret digest fuel
    | some (x, _) =>
      let r := x % c.order
      let sum := (c.digestNumber digest + r * secret) % c.order
      let s := Modular.inverse c.order k * sum % c.order
      if r = 0 ∨ s = 0 then signNumbers c secret digest fuel else (r, s)

def sign (c : Curve) (secret : Nat) (message : Bytes) : Bytes :=
  let (r, s) := c.signNumbers secret (c.digest message) 8
  Der.writeSequence (Der.writeNatural r ++ Der.writeNatural s)

def readNumbers (signature : Bytes) : Option (Nat × Nat) := do
  let (e, _) ← Der.readTagged Der.sequence signature
  let (r, rest) ← Der.readPrimitive Der.integer e.content
  let (s, _) ← Der.readPrimitive Der.integer rest
  let numbers := (Der.ofBigEndian r, Der.ofBigEndian s)
  if signature = Der.writeSequence (Der.writeNatural numbers.1 ++ Der.writeNatural numbers.2) then
    some numbers
  else none

def verify (c : Curve) (digest : Bytes → Bytes) (publicKey message signature : Bytes) : Bool :=
  match c.decodePoint? publicKey, readNumbers signature with
  | some q, some (r, s) =>
    if r = 0 ∨ s = 0 ∨ c.order ≤ r ∨ c.order ≤ s then false
    else
      let w := Modular.inverse c.order s
      let u1 := c.digestNumber (digest message) * w % c.order
      let u2 := r * w % c.order
      match c.coordinates? (c.add (c.mul u1 c.base) (c.mul u2 q)) with
      | none => false
      | some (x, _) => x % c.order = r
  | _, _ => false

end Curve
end DeviceGateway
