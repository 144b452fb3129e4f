import Hyperlink.Mount
import Hyperlink.SameHost
import Hyperlink.Url.Parse

/-!
Links from a page.

A page has an address and belongs to an application mounted somewhere. A link from it is the
shortest text that a browser on the page takes for the target: a relative reference where possible,
an absolute address where scheme, host or port change. Resolving is the way back.

Whether two hosts are the same is a parameter of `linkBy`: the ASCII form of other hosts.
-/

namespace Hyperlink

/-- A page: its address and the mount point of its application. -/
structure Page where
  base : Url
  mount : Mount := .root

/-- Why a link to a path in the application cannot be written. -/
inductive LinkError where
  /-- No path was given. -/
  | absent
  /-- The path cannot be read. -/
  | malformed (cause : ParseError)
  deriving DecidableEq

namespace LinkError

/-- The wording of a fault. -/
def message : LinkError → String
  | .absent => "Argument 'url' may not be absent"
  | .malformed cause => "Malformed URL: " ++ cause.message

/-- The fault behind a fault. -/
def cause? : LinkError → Option ParseError
  | .absent => none
  | .malformed cause => some cause

end LinkError

namespace Page

/-! ### Paths from the server root -/

/-- The path of a target given below the mount point: below the filter path, or below the context
path for a context-relative one. Its dot segments cannot climb above that point. -/
def mountedPath (page : Page) (target : Url) : Path :=
  let start := if target.contextRelative then page.mount.context else page.mount.path
  [] :: start ++ target.segments.unrooted.normalize

/-- The path of the page as seen from the server root. -/
def basePath (page : Page) : Path :=
  if page.base.isAnchored then page.base.segments
  else
    let start := if page.base.contextRelative then page.mount.context else page.mount.path
    [] :: start ++ page.base.segments.unrooted

/-! ### Resolving -/

/-- A text with the parameters of a query put behind it, the first one after a `?` and every other
one after an `&`. -/
def appendQuery (text : Text) (q : Query) : Text :=
  q.zipIdx.foldl (fun written (p, i) => written ++ [if i = 0 then '?' else '&'] ++ p.print) text

/-- A text with query and fragment of the target put behind it. -/
def appendSuffix (text : Text) (target : Url) : Text :=
  match target.fragment with
  | some fragment => appendQuery text target.query ++ ['#'] ++ fragment
  | none => appendQuery text target.query

/-- The text of an address from the server root. The port is left out when the scheme means it, and
without a host only the path is written. -/
def locate (scheme host : Option Text) (port : Option Port) (path : Path) : Text :=
  match host with
  | some host =>
    (match scheme with
      | some scheme => scheme ++ [':']
      | none => []) ++ "//".toList ++ host ++
      (match (Scheme.kindOf scheme).explicitPort port with
        | some port => ':' :: port.print
        | none => []) ++
      if path.isEmpty then [] else path.toRootedText
  | none => path.toRootedText

/-- The path a target names, seen from the page. -/
def resolvedPath (page : Page) (target : Url) : Path :=
  if target.host.isSome || target.isServerPath then target.segments.normalize
  else if target.contextRelative then page.mountedPath target
  else Path.merge page.basePath target.segments

/-- The absolute address of a target. Scheme, host and port that the target lacks are those of the
page, but a host brings its own port. -/
def resolve (page : Page) (target : Url) : Logged Text :=
  let port := if target.host.isSome then target.port else target.port <|> page.base.port
  let address := locate (target.scheme <|> page.base.scheme) (target.host <|> page.base.host) port
    (page.resolvedPath target)
  .render .resolved (appendSuffix address target)

/-! ### Linking -/

/-- The reference from the page to a target, whatever scheme, host and port the target has. A
context-relative target is seen from the context root, another one from the filter root. -/
def relativeLink (page : Page) (target : Url) : Logged Text := do
  let path ←
    if target.contextRelative then
      pure (Path.relative (page.mount.fromContext page.base) target.segments.unrooted)
    else do
      let base ← page.mount.strip page.base
      let segments ← page.mount.strip target
      pure (Path.relative base segments)
  .render .relative (appendSuffix path target)

/-- The reference from the page to a path below the context root. One leading `/` does not count,
and a path that turns out to have a host is left alone. -/
def contextLink (page : Page) (path : Option Text) : Logged (Except LinkError Text) :=
  match path with
  | none => pure (.error .absent)
  | some path =>
    match Url.parse (if path.head? = some '/' then path.tail else path) with
    | .error cause => pure (.error (.malformed cause))
    | .ok target =>
      if target.host.isSome then pure (.ok target.print)
      else .ok <$> page.relativeLink { target with contextRelative := true }

/-- Whether a target has a scheme, host or port that is not the page's. A host without a port still
means the port of its scheme. -/
def leaves (toAscii : Text → Option Text) (page : Page) (target : Url) : Bool :=
  let otherScheme :=
    target.scheme.any fun scheme => !page.base.scheme.any fun own => own.sameLetters scheme
  let otherHost :=
    target.host.any fun host => !page.base.host.any fun own => Host.sameBy toAscii own host
  let otherPort :=
    (target.host.isSome || target.port.isSome) && target.effectivePort != page.base.effectivePort
  otherScheme || otherHost || otherPort

/-- The absolute address of a target that leaves the page's origin. Without a host the path is taken
below the mount point. -/
def absoluteLink (page : Page) (target : Url) : Logged Text :=
  if target.host.isSome then page.resolve target
  else
    let path :=
      if target.isServerPath then target.segments.normalize else page.mountedPath target
    let address := locate (target.scheme <|> page.base.scheme) page.base.host
      (target.port <|> page.base.port) path
    pure (appendSuffix address target)

/-- The link from the page to a target: relative, or absolute where the target leaves the page's
origin. Targets like `//host/path` and `/path` are left alone. -/
def linkBy (toAscii : Text → Option Text) (page : Page) (target : Url) : Logged Text :=
  if target.isSchemeless then .render .schemeless target.print
  else if page.leaves toAscii target then do
    .render .absolute (← page.absoluteLink target)
  else if target.isServerPath then .render .serverPath target.print
  else page.relativeLink target

/-! ### Following links -/

/-- The page reached by a link, and its address as text. -/
def follow (page : Page) (target : Url) : Except ParseError (Text × Page) := do
  let address := (page.resolve target).value
  let base ← Url.parse address
  return (address, { page with base })

end Page

end Hyperlink
