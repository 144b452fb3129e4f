import Hyperlink.Page
import Hyperlink.Proofs.Clean

/-!
Separators by position.

The segments of a path and the parameters of a query are written in loops that look at the position
to know what to put in front: nothing or `?` at the start, `/` or `&` later on. The text of an
address, the query text and the renderings from a page each have loops of their own. All of them
write the same query and fragment (`Url.print_eq`, `Page.appendSuffix_eq`).
-/

namespace Hyperlink

/-! ### One loop -/

namespace Text

section Loop

variable {α : Type} (start : Text) (c : Char) (part : α → Text)

/-- Past the start every part is written behind the same separator. -/
theorem flatMap_zipIdx_succ {write : α × Nat → Text}
    (hsucc : ∀ a i, write (a, i + 1) = c :: part a) :
    ∀ (l : List α) (i : Nat), (l.zipIdx (i + 1)).flatMap write = l.flatMap (c :: part ·)
  | [], _ => rfl
  | a :: l, i => by
    rw [List.zipIdx_cons, List.flatMap_cons, List.flatMap_cons, hsucc,
      flatMap_zipIdx_succ hsucc l (i + 1)]

/-- A loop that puts `start` in front of the first part and a separator in front of every other one
writes the joined parts behind `start`. -/
theorem flatMap_zipIdx {write : α × Nat → Text} (hzero : ∀ a, write (a, 0) = start ++ part a)
    (hsucc : ∀ a i, write (a, i + 1) = c :: part a) {l : List α} (hl : l ≠ []) :
    l.zipIdx.flatMap write = start ++ [c].intercalate (l.map part) := by
  obtain ⟨a, l, rfl⟩ := List.exists_cons_of_ne_nil hl
  rw [List.zipIdx_cons, List.flatMap_cons, hzero, flatMap_zipIdx_succ c part hsucc, List.map_cons,
    intercalate_cons, List.flatMap_map, List.append_assoc]

/-- The same loop, appending to what is written already. -/
theorem foldl_zipIdx {append : Text → α × Nat → Text}
    (hzero : ∀ written a, append written (a, 0) = written ++ (start ++ part a))
    (hsucc : ∀ written a i, append written (a, i + 1) = written ++ c :: part a) {l : List α}
    (hl : l ≠ []) (written : Text) :
    l.zipIdx.foldl append written = written ++ (start ++ [c].intercalate (l.map part)) := by
  -- a step appends what it would write on its own
  have happend : append = fun written entry => written ++ append [] entry := by
    funext written ⟨a, i⟩
    cases i with
    | zero => rw [hzero, hzero, List.nil_append]
    | succ i => rw [hsucc, hsucc, List.nil_append]
  rw [happend, List.foldl_append_eq_append, ← List.flatMap_def,
    flatMap_zipIdx start c part (hzero []) (hsucc []) hl]

end Loop

end Text

/-! ### Three loops over a query -/

theorem Query.print_eq_intercalate (q : Query) :
    q.print = ['&'].intercalate (q.map Parameter.print) := by
  by_cases hq : q = []
  · rw [hq]
    rfl
  · exact Text.foldl_zipIdx [] '&' Parameter.print (fun _ _ => rfl)
      (fun _ _ _ => List.append_assoc _ _ _) hq []

namespace Url

/-- What a query is written as behind a path is its text behind a `?`. -/
theorem printQuery_eq (q : Query) :
    printQuery q = Text.behind '?' (if q = [] then none else some q.print) := by
  by_cases hq : q = []
  · rw [hq]
    rfl
  · rw [if_neg hq, Query.print_eq_intercalate]
    exact Text.flatMap_zipIdx ['?'] '&' Parameter.print (fun _ => rfl) (fun _ _ => rfl) hq

/-- Query and fragment as they stand behind a path: the query text behind a `?` if there are
parameters, the fragment behind a `#`. -/
def suffix (u : Url) : Text :=
  Text.behind '?' (if u.query = [] then none else some u.query.print) ++
    Text.behind '#' u.fragment

theorem print_eq (u : Url) :
    u.print = printOrigin u.scheme u.host u.port ++ u.printPath ++ u.suffix := by
  rw [print, printQuery_eq, suffix, List.append_assoc _ (Text.behind '?' _)]
  cases u.fragment <;> rfl

end Url

namespace Page

theorem appendQuery_eq (text : Text) (q : Query) :
    appendQuery text q = text ++ Url.printQuery q := by
  by_cases hq : q = []
  · rw [hq]
    exact (List.append_nil text).symm
  · rw [Url.printQuery_eq, if_neg hq, Query.print_eq_intercalate]
    exact Text.foldl_zipIdx ['?'] '&' Parameter.print (fun _ _ => List.append_assoc _ _ _)
      (fun _ _ _ => List.append_assoc _ _ _) hq text

theorem appendSuffix_eq (text : Text) (target : Url) :
    appendSuffix text target = text ++ target.suffix := by
  rw [appendSuffix, appendQuery_eq, Url.printQuery_eq, Url.suffix]
  cases target.fragment <;> simp

end Page

/-! ### The segments of an address -/

namespace Url

theorem printSegments_eq (p : Path) : printSegments p = p.toText := by
  by_cases hp : p = []
  · rw [hp]
    rfl
  · calc
      printSegments p = [] ++ ['/'].intercalate (p.map id) :=
        Text.flatMap_zipIdx [] '/' id (fun _ => rfl) (fun _ _ => rfl) hp
      _ = p.toText := by rw [List.map_id, List.nil_append, Path.toText]

/-- A path is written as its joined segments, but for the `/` of a lone root marker and the one
behind a host. -/
theorem printPath_eq_ite (u : Url) : u.printPath =
    if u.segments = [[]] then ['/']
    else if u.host.isSome && !u.segments.isEmpty && !u.segments.isRooted then
      '/' :: u.segments.toText
    else u.segments.toText := by
  rw [printPath, printSegments_eq]
  by_cases hroot : u.segments = [[]]
  · simp [hroot, Path.isRooted, Path.toText]
  · rw [if_neg hroot, if_neg hroot]
    split <;> simp

end Url

end Hyperlink
