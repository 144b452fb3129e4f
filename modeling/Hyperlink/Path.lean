import Hyperlink.Text

/-!
Paths as lists of segments.

A path is cut at every `/`. An empty first segment is the root marker (the text starts with `/`), an
empty last segment stands for a directory (the text ends with `/`). Main statements: cutting is
undone by joining (`toText_ofText`), and `names` keeps proper names only (`isNames_names`).
-/

namespace Hyperlink

/-- A path is the list of its segments. -/
abbrev Path := List Text

namespace Path

/-- The segment that names the directory it stands in. -/
def here : Text := ['.']

/-- The segment that names the directory above. -/
def up : Text := ['.', '.']

/-- Whether the path starts with the root marker. -/
def isRooted : Path → Bool
  | [] :: _ => true
  | _ => false

theorem exists_of_isRooted {p : Path} (h : p.isRooted = true) : ∃ q, p = [] :: q := by
  unfold isRooted at h
  split at h
  · next q => exact ⟨q, rfl⟩
  · simp at h

/-- The path without its root marker. -/
def unrooted : Path → Path
  | [] :: rest => rest
  | p => p

/-! ### Text -/

/-- The segments of a path text. The empty text has none. -/
def ofText (s : Text) : Path := if s = [] then [] else s.splitOn '/'

/-- The segments with `/` between them. -/
def toText (p : Path) : Text := ['/'].intercalate p

/-- The text of a path seen from the server root. A bare root is written `/`. -/
def toRootedText : Path → Text
  | [] | [[]] => ['/']
  | p => if p.isRooted then p.toText else '/' :: p.toText

theorem toText_ofText (s : Text) : toText (ofText s) = s := by
  unfold toText ofText
  split
  · next h => simp [h]
  · exact List.intercalate_splitOn '/'

/-! ### Names -/

/-- Every segment is a name: neither empty nor cut by a `/`. -/
def IsNames (p : Path) : Prop := ∀ s ∈ p, s ≠ [] ∧ '/' ∉ s

/-- The names in a path text, whatever slashes stand around them. -/
def names (s : Text) : Path := (s.splitOn '/').filter fun segment => !segment.isEmpty

theorem not_mem_of_mem_splitOn {c : Char} :
    ∀ {s segment : Text}, segment ∈ s.splitOn c → c ∉ segment
  | [], _, h => by simp_all
  | x :: rest, segment, h => by
    rw [List.splitOn_cons_eq_if_modifyHead] at h
    split at h
    · rcases List.mem_cons.1 h with rfl | h
      · simp
      · exact not_mem_of_mem_splitOn h
    · next hx =>
      obtain ⟨first, others, hs⟩ := List.exists_cons_of_ne_nil (List.splitOn_ne_nil c rest)
      rw [hs, List.modifyHead_cons] at h
      rcases List.mem_cons.1 h with rfl | h
      · have := not_mem_of_mem_splitOn (hs ▸ List.mem_cons_self : first ∈ rest.splitOn c)
        grind
      · exact not_mem_of_mem_splitOn (hs ▸ List.mem_cons_of_mem first h)

theorem isNames_names (s : Text) : IsNames (names s) := fun segment h => by
  obtain ⟨hmem, hne⟩ := List.mem_filter.1 h
  exact ⟨by simpa using hne, not_mem_of_mem_splitOn hmem⟩

/-! ### Dot segments -/

/-- Walks down a path, with the segments entered so far in reverse. `.` stays, `..` leaves the last
segment entered (there is nothing to leave at the top); at the end of the path both name a
directory. -/
def walk (entered : Path) : Path → Path
  | [] => entered.reverse
  | segment :: rest =>
    if segment = here ∨ segment = up then
      let entered := if segment = up then entered.tail else entered
      if rest.isEmpty then (([] : Text) :: entered).reverse else walk entered rest
    else walk (segment :: entered) rest

/-- The path without its dot segments. A root marker is never left. -/
def normalize (p : Path) : Path := if p.isRooted then [] :: walk [] p.unrooted else walk [] p

/-- A reference path resolved against a base path: it replaces the last segment of the base, or all
of it if it is rooted. -/
def merge (base reference : Path) : Path :=
  if reference.isRooted then reference.normalize
  else
    let directory := if base.dropLast = [] then [[]] else base.dropLast
    normalize (directory ++ reference)

/-! ### Relative references -/

/-- Two paths without the segments they share at their start. -/
def diverge : Path → Path → Path × Path
  | a :: as, b :: bs => if a = b then diverge as bs else (a :: as, b :: bs)
  | as, bs => (as, bs)

/-- A reference that would end in a bare `..` is closed by a `/`. -/
def closeUp (s : Text) : Text :=
  if s = up ∨ ['/', '.', '.'] <:+ s then s ++ ['/'] else s

/-- The reference that leads from one path to another. Both are compared by directories; there is
one `../` for each directory of the base that the target is not in, then the rest of the target. -/
def relative (base target : Path) : Text :=
  let (above, below) := diverge base.dropLast target.dropLast
  let rest := below.flatMap (· ++ ['/']) ++ target.getLastD []
  if base = [] then closeUp ("./".toList ++ rest)
  else if above = [] then
    if rest = [] then here else closeUp ("./".toList ++ rest)
  else closeUp (above.flatMap (fun _ => "../".toList) ++ rest)

end Path

end Hyperlink
