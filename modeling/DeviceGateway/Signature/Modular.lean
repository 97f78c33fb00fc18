/-!
# Arithmetic modulo a number

Differences, powers and inverses of residues.
-/

namespace DeviceGateway.Modular

def sub (m a b : Nat) : Nat := (a + (m - b % m)) % m

/-- A power modulo `m` by squaring; `fuel` bounds the binary digits of the exponent. -/
def powFuel (m : Nat) : Nat → Nat → Nat → Nat
  | 0, _, _ => 1 % m
  | fuel + 1, base, exponent =>
    if exponent = 0 then 1 % m
    else
      let half := powFuel m fuel (base * base % m) (exponent / 2)
      if exponent % 2 = 1 then half * base % m else half

def pow (m base exponent : Nat) : Nat := powFuel m (exponent.log2 + 1) (base % m) exponent

def inverse (prime a : Nat) : Nat := pow prime a (prime - 2)

end DeviceGateway.Modular
