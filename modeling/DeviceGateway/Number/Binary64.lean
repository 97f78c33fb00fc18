import DeviceGateway.Text.Numeral

/-!
# Double-precision numbers by exact arithmetic

A finite number is `m * 2 ^ q` with `m < 2 ^ 53` and `q ≥ -1074`. Rounding a quotient of naturals
picks the nearest such number, a tie going to the even mantissa. The shortest decimal of a number
has the fewest digits that still round to it, and of those the nearest.
-/

namespace DeviceGateway

inductive Binary64 where
  | finite (negative : Bool) (m : Nat) (q : Int)
  | infinite (negative : Bool)
  | notANumber
  deriving DecidableEq, Repr

namespace Binary64

/-- `2 ^ k` as a pair of factors for a numerator and a denominator. -/
def pow2Pair (k : Int) : Nat × Nat :=
  if k ≥ 0 then (Nat.pow 2 k.toNat, 1) else (1, Nat.pow 2 (-k).toNat)

/-- `10 ^ k` as a pair of factors for a numerator and a denominator. -/
def pow10Pair (k : Int) : Nat × Nat :=
  if k ≥ 0 then (Nat.pow 10 k.toNat, 1) else (1, Nat.pow 10 (-k).toNat)

/-- The nearest natural to `num / den`, a tie going to the even one. -/
def roundDiv (num den : Nat) : Nat :=
  let d := num / den
  let r := num % den
  if 2 * r < den then d
  else if den < 2 * r then d + 1
  else if d % 2 = 0 then d else d + 1

/-! ### Rounding -/

/-- The nearest number to `num / den`; past the largest finite number it is infinite. -/
def ofRatio (negative : Bool) (num den : Nat) : Binary64 :=
  if num = 0 ∨ den = 0 then .finite negative 0 (-1074)
  else
    let guess : Int := (num.log2 : Int) - (den.log2 : Int) - 52
    -- the exponent at which the quotient has 53 bits lies at the guess or one below
    let scaled := fun (q : Int) => let f := pow2Pair (-q); (num * f.1, den * f.2)
    let q0 := let s := scaled guess; if s.1 / s.2 < 4503599627370496 then guess - 1 else guess
    let q := max q0 (-1074)
    let s := scaled q
    let m := roundDiv s.1 s.2
    let (m, q) := if m = 9007199254740992 then (4503599627370496, q + 1) else (m, q)
    if q > 971 then .infinite negative else .finite negative m q

/-- The nearest number to `digits * 10 ^ exponent`. -/
def ofDecimal (negative : Bool) (digits : Nat) (exponent : Int) : Binary64 :=
  if digits = 0 then .finite negative 0 (-1074)
  else if exponent > 400 then .infinite negative
  else if exponent + (digits.log2 : Int) < -1400 then .finite negative 0 (-1074)
  else
    let f := pow10Pair exponent
    ofRatio negative (digits * f.1) f.2

def mul : Binary64 → Binary64 → Binary64
  | .finite s m q, .finite t n r =>
    let f := pow2Pair (q + r)
    ofRatio (s != t) (m * n * f.1) f.2
  | .notANumber, _ => .notANumber
  | _, .notANumber => .notANumber
  | .infinite s, .finite t _ _ => .infinite (s != t)
  | .finite s _ _, .infinite t => .infinite (s != t)
  | .infinite s, .infinite t => .infinite (s != t)

/-- The quotient of two finite numbers, the second not zero. -/
def div : Binary64 → Binary64 → Binary64
  | .finite s m q, .finite t n r =>
    let f := pow2Pair (q - r)
    ofRatio (s != t) (m * f.1) (n * f.2)
  | .infinite s, .finite t _ _ => .infinite (s != t)
  | _, _ => .notANumber

def isZero : Binary64 → Bool
  | .finite _ m _ => m == 0
  | _ => false

def isInfinite : Binary64 → Bool
  | .infinite _ => true
  | _ => false

def isFinite : Binary64 → Bool
  | .finite _ _ _ => true
  | _ => false

def withSign (negative : Bool) : Binary64 → Binary64
  | .finite _ m q => .finite negative m q
  | .infinite _ => .infinite negative
  | .notANumber => .notANumber

/-! ### Shortest decimal -/

/-- `p` with `10 ^ p ≤ num / den < 10 ^ (p + 1)`, from a guess that is off by a few. -/
def floorLog10 (num den : Nat) : Nat → Int → Int
  | 0, p => p
  | fuel + 1, p =>
    let f := pow10Pair p
    if num * f.2 < den * f.1 then floorLog10 num den fuel (p - 1)
    else
      let g := pow10Pair (p + 1)
      if den * g.1 ≤ num * g.2 then floorLog10 num den fuel (p + 1) else p

/-- The first grid of `n`, `n + 1`, … digits with a point inside the rounding interval. The
interval's ends are `low` and `high` over the common denominator `den`, both included iff
`closed`; `num` over `den` is the number. -/
def searchGrid (num low high den : Nat) (closed : Bool) (p : Int) : Nat → Nat → Nat × Int
  | 0, n => (num, p - n)
  | fuel + 1, n =>
    let k := p - n + 1
    let f := pow10Pair k
    let scaledNum := num * f.2
    let unit := den * f.1
    let inside := fun (d : Nat) =>
      let x := d * unit
      if closed then low * f.2 ≤ x ∧ x ≤ high * f.2 else low * f.2 < x ∧ x < high * f.2
    let d := scaledNum / unit
    let r := scaledNum % unit
    if inside d then
      if inside (d + 1) ∧ (unit < 2 * r ∨ (unit = 2 * r ∧ d % 2 = 1)) then (d + 1, k) else (d, k)
    else if inside (d + 1) then (d + 1, k)
    else searchGrid num low high den closed p fuel (n + 1)

def stripZeros : Nat → Nat × Int → Nat × Int
  | 0, dk => dk
  | fuel + 1, (d, k) => if d % 10 = 0 ∧ d ≠ 0 then stripZeros fuel (d / 10, k + 1) else (d, k)

/-- The shortest decimal `digits * 10 ^ exponent` that rounds to `m * 2 ^ q`. -/
def shortest (m : Nat) (q : Int) : Nat × Int :=
  if m = 0 then (0, 0)
  else
    let f := pow2Pair (q - 2)
    let den := f.2
    let num := 4 * m * f.1
    let low := (if m = 4503599627370496 ∧ q > -1074 then 4 * m - 1 else 4 * m - 2) * f.1
    let high := (4 * m + 2) * f.1
    let guess : Int := ((m.log2 : Int) + q) * 30103 / 100000
    let p := floorLog10 num den 8 guess
    stripZeros 20 (searchGrid num low high den (m % 2 == 0) p 17 1)

/-! ### Text -/

/-- Decimal digits with the point `exponent` places from the right, without an exponent part. -/
def positional (digits : Nat) (exponent : Int) : List Char :=
  let ds := Text.natChars digits
  if exponent ≥ 0 then ds ++ List.replicate exponent.toNat '0'
  else
    let places := (-exponent).toNat
    if ds.length > places then
      ds.take (ds.length - places) ++ '.' :: ds.drop (ds.length - places)
    else '0' :: '.' :: (List.replicate (places - ds.length) '0' ++ ds)

/-- The plain text: shortest digits, positional at every size. -/
def plainText : Binary64 → String
  | .finite s m q =>
    let (d, k) := shortest m q
    String.ofList ((if s then ['-'] else []) ++ positional d k)
  | .infinite s => if s then "-inf" else "inf"
  | .notANumber => "NaN"

/-- The interchange text: shortest digits, positional from `1e-5` below `1e16` with at least one
decimal place, otherwise with a signed exponent. -/
def interchangeText : Binary64 → String
  | .finite s m q =>
    let sign := if s then ['-'] else []
    let (d, k) := shortest m q
    let ds := Text.natChars d
    let e : Int := (ds.length : Int) + k - 1
    if m = 0 then String.ofList (sign ++ ['0', '.', '0'])
    else if -5 ≤ e ∧ e < 16 then
      let body := positional d k
      String.ofList (sign ++ if k ≥ 0 then body ++ ['.', '0'] else body)
    else
      let mantissa := match ds with
        | [] => []
        | [c] => [c]
        | c :: rest => c :: '.' :: rest
      String.ofList (sign ++ mantissa ++ ['e', if e < 0 then '-' else '+']
        ++ Text.natChars e.natAbs)
  | .infinite _ => "null"
  | .notANumber => "null"

end Binary64
end DeviceGateway
