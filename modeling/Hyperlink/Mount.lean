import Hyperlink.Log
import Hyperlink.Url.Print

/-!
Mount points: where on a server an application lives.

An application is mounted at its context path, and requests are dispatched below its filter path.
Both are kept as names, so `/shop`, `shop` and `shop/` are the same place.
-/

namespace Hyperlink

/-- The context path of an application and, beneath it, its filter path. -/
structure Mount where
  context : Path
  filter : Path
  isNames_context : context.IsNames
  isNames_filter : filter.IsNames
  deriving DecidableEq

namespace Mount

/-- The mount point for two path texts. -/
def ofTexts (context filter : Text) : Mount :=
  ⟨Path.names context, Path.names filter, Path.isNames_names _, Path.isNames_names _⟩

/-- The root of the server. -/
def root : Mount := ⟨[], [], by simp [Path.IsNames], by simp [Path.IsNames]⟩

/-- The mount point moved to another context path. -/
def withContext (m : Mount) (text : Text) : Mount :=
  { m with context := Path.names text, isNames_context := Path.isNames_names _ }

/-- The mount point with another filter path. -/
def withFilter (m : Mount) (text : Text) : Mount :=
  { m with filter := Path.names text, isNames_filter := Path.isNames_names _ }

/-- Context path and filter path. -/
def path (m : Mount) : Path := m.context ++ m.filter

/-- The path text of mount names: a `/` before each. -/
def pathText (names : Path) : Text := names.flatMap ('/' :: ·)

/-- The reference from the filter root up to the context root. -/
def climb (m : Mount) : Text := m.filter.flatMap fun _ => "../".toList

/-! ### Paths below the mount point -/

/-- A segment is a mount name when nothing follows the name in it but path parameters. -/
def carries (name segment : Text) : Bool :=
  match name.isPrefixOf? segment with
  | some rest => rest.isEmpty || rest.head? == some ';'
  | none => false

/-- What remains of a path below the named directories, if it leads through them. -/
def enter? : Path → Path → Option Path
  | [], path => some path
  | name :: names, segment :: path => if carries name segment then enter? names path else none
  | _ :: _, [] => none

/-- The segments of an address as seen from the filter root. A path from the server root loses the
mount path; one that leads elsewhere stays as it is and is reported. -/
def strip (m : Mount) (u : Url) : Logged Path :=
  if u.isAnchored then
    match enter? m.path u.segments.tail with
    | some below => pure below
    | none => do
      Logged.tell (.outside u.print)
      return u.segments
  else pure u.segments

/-- The segments of an address as seen from the context root. -/
def fromContext (m : Mount) (u : Url) : Path :=
  if u.contextRelative then u.segments.unrooted
  else if u.isAnchored then (enter? m.context u.segments.tail).getD u.segments.tail
  else m.filter ++ u.segments

end Mount

end Hyperlink
