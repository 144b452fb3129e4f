import Hyperlink.Authority
import Hyperlink.Url.Basic

/-!
The text of an address.
-/

namespace Hyperlink.Url

/-- `//`, the host and the port. -/
def printAuthority (host : Text) (port : Option Port) : Text :=
  "//".toList ++ host ++
    match port with
    | some p => ':' :: p.print
    | none => []

/-- What stands before the path. A scheme without a host is not written. -/
def printOrigin (scheme host : Option Text) (port : Option Port) : Text :=
  match host with
  | some host =>
    (match scheme with
      | some scheme => scheme ++ [':']
      | none => []) ++ printAuthority host port
  | none => []

/-- The segments as written: a `/` stands before every segment but the first. -/
def printSegments (p : Path) : Text :=
  p.zipIdx.flatMap fun (segment, i) => (if 0 < i then ['/'] else []) ++ segment

/-- The path as written: a lone root marker is `/`, and a host is never followed by a segment
without a `/` between them. -/
def printPath (u : Url) : Text :=
  (if u.host.isSome && !u.segments.isEmpty && !u.segments.isRooted then ['/'] else []) ++
    (if u.segments = [[]] then ['/'] else []) ++ printSegments u.segments

/-- The query as written behind a path: `?` stands before the first parameter, `&` before every
other one. -/
def printQuery (q : Query) : Text :=
  q.zipIdx.flatMap fun (p, i) => (if i = 0 then ['?'] else ['&']) ++ p.print

/-- The text of an address. -/
def print (u : Url) : Text :=
  printOrigin u.scheme u.host u.port ++ u.printPath ++ printQuery u.query ++
    match u.fragment with
    | some fragment => '#' :: fragment
    | none => []

end Hyperlink.Url
