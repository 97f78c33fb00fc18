import DeviceGateway.Url.Address

/-!
# References

A reference names an address as seen from another one: a whole address, another host of the same
scheme, another path, another query or another fragment.
-/

namespace DeviceGateway.Url

/-- What follows the path is replaced. -/
def WebAddress.withQuery (a : WebAddress) (rest : List Char) : WebAddress :=
  let beforeFragment := rest.takeWhile (· ≠ '#')
  { a with
    query := (after? '?' beforeFragment).map (percentEncode escapedInQuery)
    fragment := (after? '#' rest).map (percentEncode escapedInFragment) }

/-- Path and what follows it are replaced; the path starts from the segments `done`. -/
def WebAddress.withPath (a : WebAddress) (done : List (List Char)) (rest : List Char) :
    WebAddress :=
  let path := (rest.takeWhile fun c => c ≠ '?' ∧ c ≠ '#').map fun c => if c = '\\' then '/' else c
  let segments := (Text.splitOn '/' path).map (percentEncode escapedInPath)
  { a with path := resolveDots done segments }.withQuery rest

/-- A reference without a scheme of its own. -/
def WebAddress.joinRelative (a : WebAddress) (cs : List Char) : Except Fault WebAddress :=
  match cs with
  | [] => .ok { a with fragment := none }
  | c :: rest =>
    if isSlash true c then
      match rest with
      | d :: _ =>
        if isSlash true d then readWeb a.scheme (rest.dropWhile (isSlash true))
        else .ok (a.withPath [] rest)
      | [] => .ok (a.withPath [] rest)
    else if c = '?' then .ok (a.withQuery cs)
    else if c = '#' then .ok { a with fragment := some (percentEncode escapedInFragment rest) }
    else .ok (a.withPath a.path.dropLast cs)

def WebAddress.join (a : WebAddress) (s : String) : Except Fault Address :=
  match readScheme (cleaned s) with
  | none => (a.joinRelative (cleaned s)).map .web
  | some (scheme, rest) =>
    if scheme = a.scheme ∧ (rest.takeWhile (isSlash true)).length < 2 then
      (a.joinRelative rest).map .web
    else parse s

end DeviceGateway.Url
