import DeviceGateway.Url.Host

/-!
# Addresses of resources

An address starts with a scheme. Of the web schemes all parts are kept in a normal form: the host
resolved, the default port left out, dot segments removed and characters escaped. Of other
schemes only the scheme is kept, once the address is known to be sound.
-/

namespace DeviceGateway.Url

/-- An address of a web scheme; the path is its segments. -/
structure WebAddress where
  scheme : String
  username : List Char
  password : Option (List Char)
  host : Host
  port : Option Nat
  path : List (List Char)
  query : Option (List Char)
  fragment : Option (List Char)
  deriving DecidableEq, Repr

inductive Address where
  | web (address : WebAddress)
  | other (scheme : String)
  deriving DecidableEq, Repr

def Address.scheme : Address → String
  | .web a => a.scheme
  | .other s => s

def Address.isHttp (a : Address) : Bool := a.scheme == "http" || a.scheme == "https"

/-! ### What is escaped in each part -/

def escapedInFragment (c : Char) : Bool := "\"<>`".toList.contains c
def escapedInQuery (c : Char) : Bool := "\"#<>'".toList.contains c
def escapedInPath (c : Char) : Bool := "\"<>`#?\x7b\x7d".toList.contains c
def escapedInUserinfo (c : Char) : Bool := escapedInPath c || "/:;=@[\\]^|".toList.contains c

/-! ### Scheme and input -/

/-- Whether a character is dropped wherever it stands. -/
def isIgnored (c : Char) : Bool := c == '\t' || c == '\n' || c == '\r'

/-- The input without controls and spaces at its ends and without ignored characters. -/
def cleaned (s : String) : List Char :=
  let outer := fun (c : Char) => c.toNat ≤ 0x20
  let cs := (s.toList.dropWhile outer).reverse.dropWhile outer
  cs.reverse.filter fun c => !isIgnored c

def isSchemeChar (c : Char) : Bool := c.isAlphanum || c == '+' || c == '-' || c == '.'

/-- The scheme in lower case, and what follows its colon. -/
def readScheme (cs : List Char) : Option (String × List Char) :=
  match cs with
  | [] => none
  | c :: _ =>
    if !c.isAlpha then none
    else
      match cs.dropWhile isSchemeChar with
      | ':' :: rest => some (String.ofList ((cs.takeWhile isSchemeChar).map Char.toLower), rest)
      | _ => none

def defaultPort? : String → Option Nat
  | "http" => some 80
  | "https" => some 443
  | "ws" => some 80
  | "wss" => some 443
  | "ftp" => some 21
  | _ => none

/-- Whether a character separates path segments; a backslash does so in web addresses. -/
def isSlash (web : Bool) (c : Char) : Bool := c == '/' || (web && c == '\\')

def endsAuthority (web : Bool) (c : Char) : Bool := isSlash web c || c == '?' || c == '#'

/-! ### Userinfo, host and port -/

/-- What stands before the last `@`, if there is one, and what follows it. -/
def splitUserinfo (authority : List Char) : Option (List Char × List Char) :=
  let after := (authority.reverse.takeWhile (· ≠ '@')).reverse
  if after.length = authority.length then none
  else some (authority.take (authority.length - after.length - 1), after)

/-- User name and password of a userinfo; an empty password counts as none. -/
def readUserinfo (cs : List Char) : List Char × Option (List Char) :=
  let name := cs.takeWhile (· ≠ ':')
  let word := (cs.drop (name.length + 1))
  (percentEncode escapedInUserinfo name,
    if word.isEmpty then none else some (percentEncode escapedInUserinfo word))

/-- The host text up to a colon outside brackets, and what follows it. -/
def splitHost : Bool → List Char → List Char × List Char
  | _, [] => ([], [])
  | inside, c :: rest =>
    if c = ':' ∧ !inside then ([], c :: rest)
    else
      let inside := if c = '[' then true else if c = ']' then false else inside
      let (host, after) := splitHost inside rest
      (c :: host, after)

/-- A port after its colon, none if there are no digits. -/
def readPort (acc : Option Nat) : List Char → Except Fault (Option Nat)
  | [] => .ok acc
  | c :: rest =>
    if c.isDigit then
      let n := acc.getD 0 * 10 + (c.toNat - 48)
      if n > 65535 then .error .invalidPort else readPort (some n) rest
    else .error .invalidPort

def readPortPart : List Char → Except Fault (Option Nat)
  | ':' :: rest => readPort none rest
  | _ => .ok none

/-! ### Path, query and fragment -/

/-- Whether a segment stands for the present one. -/
def isSingleDot (segment : List Char) : Bool :=
  let s := segment.map Char.toLower
  s == ".".toList || s == "%2e".toList

/-- Whether a segment stands for the one above. -/
def isDoubleDot (segment : List Char) : Bool :=
  let s := segment.map Char.toLower
  s == "..".toList || s == ".%2e".toList || s == "%2e.".toList || s == "%2e%2e".toList

/-- The segments of a path with dot segments resolved; `done` holds those so far. -/
def resolveDots (done : List (List Char)) : List (List Char) → List (List Char)
  | [] => done
  | [last] =>
    if isDoubleDot last then done.dropLast ++ [[]]
    else if isSingleDot last then done ++ [[]]
    else done ++ [last]
  | s :: rest =>
    if isDoubleDot s then resolveDots done.dropLast rest
    else if isSingleDot s then resolveDots done rest
    else resolveDots (done ++ [s]) rest

def readPath (cs : List Char) : List (List Char) :=
  let cs := cs.map fun c => if c = '\\' then '/' else c
  let cs := match cs with
    | '/' :: rest => rest
    | cs => cs
  resolveDots [] ((Text.splitOn '/' cs).map (percentEncode escapedInPath))

/-- The text after the first mark, if the mark is there. -/
def after? (mark : Char) (cs : List Char) : Option (List Char) :=
  match cs.dropWhile (· ≠ mark) with
  | [] => none
  | _ :: rest => some rest

/-! ### Addresses -/

def readWeb (scheme : String) (cs : List Char) : Except Fault WebAddress := do
  let authority := cs.takeWhile fun c => !endsAuthority true c
  let rest := cs.drop authority.length
  let (userinfo, hostPort) :=
    match splitUserinfo authority with
    | some (u, h) => (u, h)
    | none => ([], authority)
  let (username, password) := readUserinfo userinfo
  let (hostText, portText) := splitHost false hostPort
  if hostText.isEmpty then .error .emptyHost
  let host ← readHost hostText
  let port ← readPortPart portText
  let path := rest.takeWhile fun c => c ≠ '?' ∧ c ≠ '#'
  let beforeFragment := rest.takeWhile (· ≠ '#')
  return {
    scheme, username, password, host
    port := if port = defaultPort? scheme then none else port
    path := readPath path
    query := (after? '?' beforeFragment).map (percentEncode escapedInQuery)
    fragment := (after? '#' rest).map (percentEncode escapedInFragment) }

def isDriveLetter : List Char → Bool
  | [a, b] => a.isAlpha && (b == ':' || b == '|')
  | _ => false

def checkFile (cs : List Char) : Except Fault Unit :=
  match cs with
  | a :: b :: rest =>
    if isSlash true a ∧ isSlash true b then
      let host := rest.takeWhile fun c => !endsAuthority true c
      if host.isEmpty ∨ isDriveLetter host then .ok ()
      else (readHost host).map fun _ => ()
    else .ok ()
  | _ => .ok ()

/-- Whether an address of a scheme without rules of its own is sound. -/
def checkOpaque (cs : List Char) : Except Fault Unit :=
  match cs with
  | '/' :: '/' :: rest => do
    let authority := rest.takeWhile fun c => !endsAuthority false c
    let (userinfo, hostPort) :=
      match splitUserinfo authority with
      | some (u, h) => (u, h)
      | none => ([], authority)
    let (hostText, portText) := splitHost false hostPort
    let _ ← readOpaqueHost hostText
    if hostText.isEmpty ∧ (!portText.isEmpty ∨ !userinfo.isEmpty) then .error .emptyHost
    let _ ← readPortPart portText
    return ()
  | _ => .ok ()

def parse (s : String) : Except Fault Address :=
  match readScheme (cleaned s) with
  | none => .error .relativeWithoutBase
  | some (scheme, rest) =>
    if (defaultPort? scheme).isSome then
      (readWeb scheme (rest.dropWhile (isSlash true))).map .web
    else if scheme = "file" then (checkFile rest).map fun _ => .other scheme
    else (checkOpaque rest).map fun _ => .other scheme

/-- User name and password as they stand before the host. -/
def WebAddress.userinfoChars (a : WebAddress) : List Char :=
  match a.password with
  | some w => a.username ++ [':'] ++ w ++ ['@']
  | none => if a.username.isEmpty then [] else a.username ++ ['@']

def WebAddress.hostChars (a : WebAddress) : List Char :=
  a.host.chars ++ (match a.port with
    | some p => ':' :: Text.natChars p
    | none => [])

def WebAddress.targetChars (a : WebAddress) : List Char :=
  '/' :: List.intercalate ['/'] a.path ++ (match a.query with
    | some q => '?' :: q
    | none => [])

def WebAddress.text (a : WebAddress) : String :=
  a.scheme ++ "://" ++ String.ofList (a.userinfoChars ++ a.hostChars ++ a.targetChars
    ++ (match a.fragment with
      | some f => '#' :: f
      | none => []))

end DeviceGateway.Url
