import DeviceGateway.Bytes.Base64
import DeviceGateway.Http.Status
import DeviceGateway.Url.Reference

/-!
# Requests and their results

A request goes to a web address and is answered or not. Redirects are followed, ten at most: three
statuses turn the request into one that only gets, two keep what it posts. What comes of a request
is a failure or a final status with its body.
-/

namespace DeviceGateway.Http

inductive Method where
  | get
  | post
  deriving DecidableEq, Repr

def Method.text : Method → String
  | get => "GET"
  | post => "POST"

/-- A request; user name and password of its address are in its authorization. -/
structure Request where
  method : Method
  address : Url.WebAddress
  authorization : Option String
  body : Option String
  deriving DecidableEq, Repr

def Request.line (r : Request) : String :=
  r.method.text ++ " " ++ String.ofList r.address.targetChars ++ " HTTP/1.1"

def Request.contentType (r : Request) : Option String :=
  r.body.map fun _ => "application/json"

/-- A response. Its body is absent if the connection ended before all of it came. -/
structure Response where
  status : Nat
  location : Option String
  body : Option Bytes
  deriving DecidableEq, Repr

/-- What came of a request: a failure with its wording, or a status with a body, of which the
wording of a failure may take the place. -/
inductive Result where
  | failed (text : String)
  | answered (status : Nat) (body : Except String Bytes)

/-! ### Authorization -/

def basicAuthorization (username : String) (password : Option String) : String :=
  "Basic " ++ Base64.encodeText (Utf8.encodeText (username ++ ":" ++ password.getD ""))

def credentialsOf? (a : Url.WebAddress) : Option (String × Option String) :=
  match Utf8.decodeText? (Url.percentDecode a.username) with
  | none => none
  | some username =>
    let password := a.password.bind fun w => Utf8.decodeText? (Url.percentDecode w)
    if username.isEmpty && password.isNone then none else some (username, password)

def Request.posting (address : Url.WebAddress) (body : String) : Request :=
  match credentialsOf? address with
  | none => ⟨.post, address, none, some body⟩
  | some (username, password) =>
    ⟨.post, { address with username := [], password := none },
      some (basicAuthorization username password), some body⟩

/-! ### Redirects -/

def redirectLimit : Nat := 10

def sameServer (a b : Url.WebAddress) : Bool :=
  a.host == b.host && (a.port.orElse fun _ => Url.defaultPort? a.scheme)
    == (b.port.orElse fun _ => Url.defaultPort? b.scheme)

/-- A request sent to another address. The authorization stays with its server. -/
def Request.movedTo (r : Request) (address : Url.WebAddress) : Request :=
  { r with
    address := address
    authorization := if sameServer r.address address then r.authorization else none }

/-- The request after a response of the given status, if the status is a redirect. -/
def Request.redirected? (r : Request) (status : Nat) (address : Url.WebAddress) : Option Request :=
  if status = 301 ∨ status = 302 ∨ status = 303 then
    some { r.movedTo address with method := .get, body := none }
  else if status = 307 ∨ status = 308 then some (r.movedTo address)
  else none

/-- Where a response sends a request: nowhere, to another request, or to an address that is not
reached over HTTP. -/
inductive Redirect where
  | none
  | to (next : Request)
  | unreachable (address : Url.WebAddress)
  deriving DecidableEq, Repr

/-- Where a response sends a request. A location that is no address counts for nothing. -/
def Request.redirect (r : Request) (response : Response) : Redirect :=
  match response.location.map r.address.join with
  | some (.ok (.web address)) =>
    match r.redirected? response.status address with
    | some next => if (Url.Address.web address).isHttp then .to next else .unreachable address
    | none => .none
  | _ => .none

def failureText (what : String) (address : Url.WebAddress) : String :=
  what ++ " for url (" ++ address.text ++ ")"

def Response.result (response : Response) : Result :=
  .answered response.status (match response.body with
    | some body => .ok body
    | none => .error "error decoding response body")

/-- Send a request and follow at most the given number of redirects. `exchange` sends one request
in a world and gives the response, if one came; `origin` is the address that was asked for first. -/
def sendFrom {ν : Type} (exchange : Request → ν → Option Response × ν) (origin : Url.WebAddress) :
    Nat → Request → ν → Result × ν
  | left, r, w =>
    let (response?, w) := exchange r w
    match response?.filter (isFinal ·.status) with
    | none => (.failed (failureText "error sending request" origin), w)
    | some response =>
      match left, r.redirect response with
      | _, .none => (response.result, w)
      | 0, _ => (.failed (failureText "error following redirect" r.address), w)
      | _ + 1, .unreachable address => (.failed (failureText "builder error" address), w)
      | left + 1, .to next => sendFrom exchange origin left next w

def send {ν : Type} (exchange : Request → ν → Option Response × ν) (r : Request) (w : ν) :
    Result × ν :=
  sendFrom exchange r.address redirectLimit r w

end DeviceGateway.Http
