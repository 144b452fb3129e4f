import Hyperlink.Authority
import Hyperlink.Url.Basic

/-!
Reading an address.

The fragment and then the query are cut off, the scheme and the authority are taken from the front,
and what remains is the path. Dot segments and percent-encoding stay as written.
-/

namespace Hyperlink.Url

/-- Takes the scheme off the front. It has to be a scheme name where `://` follows. -/
def takeScheme (s : Text) : Except ParseError (Option Text × Text) :=
  match Scheme.split? s with
  | some (scheme, rest) => if Scheme.isValid scheme then .ok (some scheme, rest) else .error .scheme
  | none => .ok (none, s)

/-- Takes the authority off the front. It stands between `//` and the next `/`. -/
def takeAuthority : Text → Except ParseError (Option Authority × Text)
  | '/' :: '/' :: rest => do
    let authority ← Authority.parse (rest.takeWhile (· != '/'))
    return (some authority, rest.dropWhile (· != '/'))
  | s => .ok (none, s)

/-- Reads an address. -/
def parse (input : Text) : Except ParseError Url := do
  let (rest, fragment) := Text.cut '#' input.clean
  let (rest, query) := Text.cut '?' rest
  let (scheme, rest) ← takeScheme rest
  let (authority, path) ← takeAuthority rest
  return {
    scheme
    host := authority.map (·.host)
    port := authority.bind (·.port)
    segments := Path.ofText path
    query := (query.map Query.ofText).getD []
    fragment := fragment.filter (· ≠ []) }

end Hyperlink.Url
