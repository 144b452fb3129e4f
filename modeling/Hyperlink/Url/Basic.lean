import Hyperlink.Path
import Hyperlink.Query
import Hyperlink.Scheme

/-!
Addresses as values: scheme, host and port where present, path segments, query parameters, fragment.

Any of the parts can be set to anything; which values have a text of their own that reads back as
them is a question for `Url.parse` and `Url.print`.
-/

namespace Hyperlink

/-- An address. Without a host it is relative to a page; a context-relative one starts at the root
of the application instead. -/
structure Url where
  scheme : Option Text := none
  host : Option Text := none
  port : Option Port := none
  segments : Path := []
  query : Query := []
  fragment : Option Text := none
  contextRelative : Bool := false
  deriving DecidableEq

namespace Url

/-- The relative address with these segments. -/
def ofSegments (segments : Path) : Url := { segments }

/-! ### Reading -/

/-- The kind of the scheme. -/
def kind (u : Url) : Scheme.Kind := Scheme.kindOf u.scheme

/-- The port as written, or the one that the scheme means. -/
def effectivePort (u : Url) : Option Port := u.port <|> u.kind.defaultPort

/-- Scheme and host are both present. -/
def isFull (u : Url) : Bool := u.scheme.isSome && u.host.isSome

/-- A host without a scheme, as in `//host/path`. -/
def isSchemeless (u : Url) : Bool := u.scheme.isNone && u.host.isSome

/-- The path starts at the root of the server. -/
def isAnchored (u : Url) : Bool := !u.contextRelative && u.segments.isRooted

/-- A path from the root of the server, without a host, as in `/path`. -/
def isServerPath (u : Url) : Bool := u.host.isNone && u.isAnchored

/-! ### Building -/

/-- One step in building an address. -/
inductive Edit where
  | scheme (s : Text)
  | host (s : Text)
  | port (p : Port)
  | contextRelative (flag : Bool)
  /-- Replaces the path. -/
  | segments (path : Path)
  /-- Adds one segment to the path. -/
  | segment (s : Text)
  /-- Adds a parameter given as written. -/
  | parameter (name value : Text)
  /-- Adds a parameter given in plain text. -/
  | plainParameter (name value : Text)
  /-- Sets the fragment; an empty one takes it away. -/
  | fragment (s : Text)

/-- The address after one step. Nothing is checked. -/
def edit (u : Url) : Edit → Url
  | .scheme s => { u with scheme := some s }
  | .host s => { u with host := some s }
  | .port p => { u with port := some p }
  | .contextRelative flag => { u with contextRelative := flag }
  | .segments path => { u with segments := path }
  | .segment s => { u with segments := u.segments ++ [s] }
  | .parameter name value => { u with query := u.query ++ [⟨name, value⟩] }
  | .plainParameter name value => { u with query := u.query ++ [.ofPlain name value] }
  | .fragment s => { u with fragment := if s = [] then none else some s }

end Url

end Hyperlink
