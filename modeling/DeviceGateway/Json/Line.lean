import DeviceGateway.Json.Value

/-!
# JSON on one line

The compact text of a value has no line feed. The other characters that end a line in some readers
are escaped as well, so that one value is one line for all of them.
-/

namespace DeviceGateway.Json

/-- A character with the line ends beyond ASCII escaped. -/
def lineChar (c : Char) : List Char :=
  if c.toNat = 0x85 then "\\u0085".toList
  else if c.toNat = 0x2028 then "\\u2028".toList
  else if c.toNat = 0x2029 then "\\u2029".toList
  else [c]

def Value.oneLine (v : Value) : String := String.ofList (v.compact.toList.flatMap lineChar)

end DeviceGateway.Json
