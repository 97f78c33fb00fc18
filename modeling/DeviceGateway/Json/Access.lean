import DeviceGateway.Json.Value

/-!
# Access to JSON values

The parts of a value by their types. A member that is null counts as absent.
-/

namespace DeviceGateway.Json.Value

/-- A member that is present and not null. -/
def member? (v : Value) (key : String) : Option Value :=
  match v.get? key with
  | some .null => none
  | other => other

def text? : Value → Option String
  | .str s => some s
  | _ => none

/-- A whole number from zero on. -/
def nat? : Value → Option Nat
  | .int i => if i < 0 then none else some i.toNat
  | _ => none

def bool? : Value → Option Bool
  | .bool b => some b
  | _ => none

def items : Value → List Value
  | .arr vs => vs
  | _ => []

def members : Value → List (String × Value)
  | .obj ms => ms
  | _ => []

end DeviceGateway.Json.Value
