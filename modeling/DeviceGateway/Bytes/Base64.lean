import DeviceGateway.Bytes.Hex

/-!
# Base64 text

The standard alphabet with padding. Writing takes three octets to four characters; reading is
strict: whole groups only, padding only at the end, and no stray bits under the padding.
-/

namespace DeviceGateway.Base64

/-! ### Alphabet -/

def digit (n : Nat) : Char :=
  if n < 26 then Char.ofNat (65 + n)
  else if n < 52 then Char.ofNat (71 + n)
  else if n < 62 then Char.ofNat (n - 4)
  else if n = 62 then '+'
  else '/'

def value? (c : Char) : Option Nat :=
  if 'A' ≤ c ∧ c ≤ 'Z' then some (c.toNat - 65)
  else if 'a' ≤ c ∧ c ≤ 'z' then some (c.toNat - 71)
  else if '0' ≤ c ∧ c ≤ '9' then some (c.toNat + 4)
  else if c = '+' then some 62
  else if c = '/' then some 63
  else none

theorem value?_digit : ∀ n, n < 64 → value? (digit n) = some n := by decide

theorem digit_ne_pad : ∀ n, n < 64 → digit n ≠ '=' := by decide

/-! ### Writing -/

/-- The characters of an octet string, three octets at a time. -/
def encode : Bytes → List Char
  | [] => []
  | [a] =>
    let v := a.toNat * 16
    [digit (v / 64), digit (v % 64), '=', '=']
  | [a, b] =>
    let v := (a.toNat * 256 + b.toNat) * 4
    [digit (v / 4096), digit (v / 64 % 64), digit (v % 64), '=']
  | a :: b :: c :: rest =>
    let v := (a.toNat * 256 + b.toNat) * 256 + c.toNat
    digit (v / 262144) :: digit (v / 4096 % 64) :: digit (v / 64 % 64) :: digit (v % 64)
      :: encode rest

/-! ### Reading -/

/-- The octets of a last group with two padding characters. -/
def decodeOne? (a b : Nat) : Option Bytes :=
  if b % 16 = 0 then some [UInt8.ofNat (a * 4 + b / 16)] else none

/-- The octets of a last group with one padding character. -/
def decodeTwo? (a b c : Nat) : Option Bytes :=
  if c % 4 = 0 then
    some [UInt8.ofNat (a * 4 + b / 16), UInt8.ofNat (b % 16 * 16 + c / 4)]
  else none

/-- Groups of four characters as octets; padding may only close the last group. -/
def decode? : List Char → Option Bytes
  | [] => some []
  | [a, b, '=', '='] => do decodeOne? (← value? a) (← value? b)
  | [a, b, c, '='] => do decodeTwo? (← value? a) (← value? b) (← value? c)
  | a :: b :: c :: d :: rest => do
    let a ← value? a
    let b ← value? b
    let c ← value? c
    let d ← value? d
    let tail ← decode? rest
    some (UInt8.ofNat (a * 4 + b / 16) :: UInt8.ofNat (b % 16 * 16 + c / 4)
      :: UInt8.ofNat (c % 4 * 64 + d) :: tail)
  | _ => none

theorem decode?_encode (bs : Bytes) : decode? (encode bs) = some bs := by
  fun_induction encode bs with
  | case1 => rfl
  | case2 a v =>
    have ha := a.toNat_lt
    have h1 : v / 64 < 64 := by omega
    have h2 : v % 64 < 64 := by omega
    simp only [decode?, value?_digit _ h1, value?_digit _ h2, Option.bind_eq_bind,
      Option.bind_some, decodeOne?]
    rw [if_pos (by omega), show v / 64 * 4 + v % 64 / 16 = a.toNat by omega, UInt8.ofNat_toNat]
  | case3 a b v =>
    have ha := a.toNat_lt
    have hb := b.toNat_lt
    have h1 : v / 4096 < 64 := by omega
    have h2 : v / 64 % 64 < 64 := by omega
    have h3 : v % 64 < 64 := by omega
    have hne := digit_ne_pad _ h3
    simp only [decode?, value?_digit _ h1, value?_digit _ h2, value?_digit _ h3,
      Option.bind_eq_bind, Option.bind_some, decodeTwo?]
    rw [if_pos (by omega), show v / 4096 * 4 + v / 64 % 64 / 16 = a.toNat by omega,
      show v / 64 % 64 % 16 * 16 + v % 64 / 4 = b.toNat by omega,
      UInt8.ofNat_toNat, UInt8.ofNat_toNat]
  | case4 a b c rest v ih =>
    have ha := a.toNat_lt
    have hb := b.toNat_lt
    have hc := c.toNat_lt
    have h1 : v / 262144 < 64 := by omega
    have h2 : v / 4096 % 64 < 64 := by omega
    have h3 : v / 64 % 64 < 64 := by omega
    have h4 : v % 64 < 64 := by omega
    have hne3 := digit_ne_pad _ h3
    have hne4 := digit_ne_pad _ h4
    rw [decode?]
    · simp only [value?_digit _ h1, value?_digit _ h2, value?_digit _ h3, value?_digit _ h4, ih,
        Option.bind_eq_bind, Option.bind_some]
      rw [show v / 262144 * 4 + v / 4096 % 64 / 16 = a.toNat by omega,
        show v / 4096 % 64 % 16 * 16 + v / 64 % 64 / 4 = b.toNat by omega,
        show v / 64 % 64 % 4 * 64 + v % 64 = c.toNat by omega,
        UInt8.ofNat_toNat, UInt8.ofNat_toNat, UInt8.ofNat_toNat]
    · intro h; exact fun h' _ => absurd h' hne4
    · intro h; exact absurd h hne4

def encodeText (bs : Bytes) : String := String.ofList (encode bs)

end DeviceGateway.Base64
