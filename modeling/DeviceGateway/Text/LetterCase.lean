/-!
# ASCII letter case

Names are compared and mapped without regard to the case of ASCII letters; all other characters
stand for themselves.
-/

namespace DeviceGateway.Text

def upperAscii (s : String) : String := String.ofList (s.toList.map Char.toUpper)

def lowerAscii (s : String) : String := String.ofList (s.toList.map Char.toLower)

/-- Whether two texts differ at most in the case of ASCII letters. -/
def sameIgnoringCase (a b : String) : Bool :=
  a.toList.map Char.toLower == b.toList.map Char.toLower

theorem sameIgnoringCase_refl (s : String) : sameIgnoringCase s s = true := by
  simp only [sameIgnoringCase, beq_self_eq_true]

end DeviceGateway.Text
