import DeviceGateway.Number.Binary64
import DeviceGateway.Text.Numeral

/-!
# Decimal texts of double-precision numbers

A decimal text has a sign or none, digits with a point among them or none, and an exponent or none.
It stands for the nearest double-precision number.
-/

namespace DeviceGateway

def Text.dropSign : List Char → List Char
  | '+' :: rest => rest
  | '-' :: rest => rest
  | cs => cs

def Binary64.readExponent : List Char → Option Int
  | [] => some 0
  | e :: digits =>
    if e = 'e' ∨ e = 'E' then (Text.readInt 10 9223372036854775808 digits).toOption else none

def Binary64.ofText? (cs : List Char) : Option Binary64 :=
  let body := Text.dropSign cs
  let whole := body.takeWhile Char.isDigit
  let rest := body.drop whole.length
  let (fraction, rest) := match rest with
    | '.' :: after => (after.takeWhile Char.isDigit, after.dropWhile Char.isDigit)
    | rest => ([], rest)
  let digits := whole ++ fraction
  match Text.readNat 10 (Nat.pow 10 digits.length) digits, readExponent rest with
  | .ok n, some e => some (.ofDecimal (cs.head? == some '-') n (e - fraction.length))
  | _, _ => none

end DeviceGateway
