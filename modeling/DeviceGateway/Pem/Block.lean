import DeviceGateway.Bytes.Base64Strict
import DeviceGateway.Bytes.Utf8
import DeviceGateway.Text.Blank
import DeviceGateway.Text.Split

/-!
# A single block of armour

The first block of a text between two marks with the same label, whatever the label is. A block may
start with headers, which end at an empty line.
-/

namespace DeviceGateway.Pem

inductive BlockFault where
  | framing
  | noStartLabel
  | noEndLabel
  | labels (start finish : String)
  | base64 (problem : Base64.Problem)
  | header (line : String)
  deriving DecidableEq, Repr

def BlockFault.message : BlockFault → String
  | .framing => "malformedframing"
  | .noStartLabel => "missing BEGIN tag"
  | .noEndLabel => "missing END tag"
  | .labels start finish =>
    "mismatching BEGIN (\"" ++ start ++ "\") and END (\"" ++ finish ++ "\") tags"
  | .base64 p => "invalid data: " ++ p.message
  | .header line => "invalid header: " ++ line

/-- What stands before the first occurrence of a mark, and what follows it. -/
def cutAt? (mark : List Char) : List Char → Option (List Char × List Char)
  | [] => if mark.isEmpty then some ([], []) else none
  | c :: rest =>
    if mark.isPrefixOf (c :: rest) then some ([], (c :: rest).drop mark.length)
    else (cutAt? mark rest).map fun (before, after) => (c :: before, after)

/-- Whether a character is spacing between marks and body. -/
def isBlockSpacing (c : Char) : Bool := c == ' ' || c == '\t' || c == '\n' || c == '\r'

def splitHeaders (body : List Char) : List Char × List Char :=
  match cutAt? "\n\n".toList body with
  | some parts => parts
  | none =>
    match cutAt? "\r\n\r\n".toList body with
    | some parts => parts
    | none => ([], body)

/-- The header lines without a colon, of which there may be none. -/
def badHeader? (headers : List Char) : Option String :=
  ((Text.splitOn '\n' headers).map fun l => String.ofList (l.filter (· != '\r'))).find?
    fun l => !l.isEmpty && !l.toList.contains ':'

def readBlock (text : String) : Except BlockFault Bytes :=
  let parts := do
    let (_, rest) ← cutAt? "-----BEGIN ".toList text.toList
    let (start, rest) ← cutAt? "-----".toList rest
    let (body, rest) ← cutAt? "-----END ".toList (rest.dropWhile isBlockSpacing)
    let (finish, _) ← cutAt? "-----".toList rest
    some (start, body, finish)
  match parts with
  | none => .error .framing
  | some (start, body, finish) =>
    if start.isEmpty then .error .noStartLabel
    else if finish.isEmpty then .error .noEndLabel
    else if start ≠ finish then .error (.labels (String.ofList start) (String.ofList finish))
    else
      let (headers, data) := splitHeaders body
      match Base64.decodeStrict (Utf8.encode (data.filter (!Text.isBlankChar ·))) with
      | .error p => .error (.base64 p)
      | .ok der =>
        match badHeader? headers with
        | some line => .error (.header line)
        | none => .ok der

end DeviceGateway.Pem
