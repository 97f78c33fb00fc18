import DeviceGateway.Text.Quoted
import DeviceGateway.Number.Binary64

/-!
# Faults of shape

Structured data is read against an expected shape. A fault says what was found and what the shape
asks for. Two wordings exist: the one of interchange documents and the one of layered settings.
-/

namespace DeviceGateway.Shape

/-- A value without parts. Whole numbers of up to 64 bits are told apart by sign; `wide` holds
larger ones. -/
inductive Scalar where
  | null
  | bool (b : Bool)
  | unsigned (n : Nat)
  | signed (i : Int)
  | wide (i : Int)
  | float (x : Binary64)
  | char (c : Char)
  | text (s : String)
  deriving DecidableEq, Repr

/-- What stood where something else was expected. -/
inductive Found where
  | scalar (s : Scalar)
  | sequence
  | map
  deriving DecidableEq, Repr

/-- A mismatch between data and its expected shape. -/
inductive Fault where
  | invalidType (found : Found) (expected : String)
  | invalidValue (found : Found) (expected : String)
  | invalidLength (length : Nat) (expected : String)
  | unknownVariant (name : String) (expected : List String)
  | missingField (name : String)
  | duplicateField (name : String)
  | custom (text : String)
  deriving DecidableEq, Repr

/-! ### Wording of interchange documents -/

def Scalar.documentText : Scalar → String
  | .null => "null"
  | .bool b => "boolean `" ++ toString b ++ "`"
  | .unsigned n => "integer `" ++ Text.natText n ++ "`"
  | .signed i => "integer `" ++ Text.intText i ++ "`"
  | .float x => "floating point `" ++ x.interchangeText ++ "`"
  | .char c => "character `" ++ String.singleton c ++ "`"
  | .text s => "string " ++ Text.quoted s
  | .wide i => "integer `" ++ Text.intText i ++ "` as " ++ (if i < 0 then "i128" else "u128")

def Found.documentText : Found → String
  | .scalar s => s.documentText
  | .sequence => "sequence"
  | .map => "map"

/-- Alternatives, each in grave accents: one, two joined by "or", more as a list. -/
def alternatives : List String → String
  | [] => "there are no variants"
  | [a] => "`" ++ a ++ "`"
  | [a, b] => "`" ++ a ++ "` or `" ++ b ++ "`"
  | names => "one of " ++ String.intercalate ", " (names.map fun a => "`" ++ a ++ "`")

def Fault.documentMessage : Fault → String
  | .invalidType f e => "invalid type: " ++ f.documentText ++ ", expected " ++ e
  | .invalidValue f e => "invalid value: " ++ f.documentText ++ ", expected " ++ e
  | .invalidLength n e => "invalid length " ++ Text.natText n ++ ", expected " ++ e
  | .unknownVariant v names => "unknown variant `" ++ v ++ "`, expected " ++ alternatives names
  | .missingField f => "missing field `" ++ f ++ "`"
  | .duplicateField f => "duplicate field `" ++ f ++ "`"
  | .custom t => t

/-! ### Wording of layered settings -/

def Scalar.settingText : Scalar → String
  | .null => "unit"
  | .bool b => "bool " ++ toString b
  | .unsigned n => "unsigned int `" ++ Text.natText n ++ "`"
  | .signed i => "signed int `" ++ Text.intText i ++ "`"
  | .float x => "float `" ++ x.plainText ++ "`"
  | .char c => "char " ++ Text.quotedOne c
  | .text s => "string " ++ Text.quoted s
  | .wide i => "integer `" ++ Text.intText i ++ "` as " ++ (if i < 0 then "i128" else "u128")

def Found.settingText : Found → String
  | .scalar s => s.settingText
  | .sequence => "sequence"
  | .map => "map"

def Fault.settingMessage : Fault → String
  | .invalidType f e => "invalid type: found " ++ f.settingText ++ ", expected " ++ e
  | .invalidValue f e => "invalid value " ++ f.settingText ++ ", expected " ++ e
  | .invalidLength n e => "invalid length " ++ Text.natText n ++ ", expected " ++ e
  | .unknownVariant v names =>
    "unknown variant: found `" ++ v ++ "`, expected `" ++ alternatives names ++ "`"
  | .missingField f => "missing field `" ++ f ++ "`"
  | .duplicateField f => "duplicate field `" ++ f ++ "`"
  | .custom t => t

end DeviceGateway.Shape
