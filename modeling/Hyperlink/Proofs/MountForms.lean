import Hyperlink.Json.Decode
import Hyperlink.Proofs.DotSegments

/-!
The written forms of a mount point.

In whatever way a mount point was come by, its paths are names (`Built.isNames`). Names with a `/`
before each are read back as they are (`names_slashed`), so the two path texts of a mount point
spell it again, alone, in an object or in an array (`Built.ofJson_pathTexts`).
-/

namespace Hyperlink

/-- Names are read back from their path text. The slashes around them leave empty pieces, which are
no names. -/
theorem Path.names_slashed {p : Path} (h : p.IsNames) : Path.names (Path.slashed p) = p := by
  have hslash : ∀ s ∈ [] :: p, '/' ∉ s :=
    List.forall_mem_cons.2 ⟨List.not_mem_nil, fun s hs => (h s hs).2⟩
  have hsplit : (Path.slashed p).splitOn '/' = [] :: p := by
    rw [← Path.toText_rooted]
    exact List.splitOn_intercalate '/' hslash (List.cons_ne_nil [] p)
  rw [Path.names, hsplit, List.filter_cons_of_neg (by simp), List.filter_eq_self]
  intro s hs
  simpa using (h s hs).1

namespace Mount

/-! ### Reading JSON values -/

theorem ofValues_eq_ok {context filter : Option Json} {m : Mount}
    (h : ofValues context filter = .ok m) : ∃ c f, m = ofTexts c f := by
  obtain ⟨c, -, h⟩ := Except.bind_eq_ok_iff.1 h
  obtain ⟨f, -, h⟩ := Except.bind_eq_ok_iff.1 h
  exact ⟨c, f, (Except.ok.inj h).symm⟩

/-- Whatever JSON value spells a mount point, it does so by two path texts. -/
theorem ofJson_eq_ok {value : Json} {m : Mount} (h : ofJson value = .ok m) :
    ∃ c f, m = ofTexts c f := by
  cases value with
  | object fields => exact ofValues_eq_ok h
  | array items =>
    obtain ⟨read, hread, h⟩ := Except.bind_eq_ok_iff.1 h
    obtain ⟨c, f, rfl⟩ := ofValues_eq_ok hread
    split at h
    · exact ⟨c, f, (Except.ok.inj h).symm⟩
    · exact nomatch h
  | _ => exact nomatch h

theorem ofJson_object {fields : List (Text × Json)} {c f : Text}
    (hcontext : Json.field? fields contextField = some (.string c))
    (hfilter : Json.field? fields filterField = some (.string f)) :
    ofJson (.object fields) = .ok (ofTexts c f) := by
  rw [ofJson, hcontext, hfilter]
  rfl

theorem ofJson_array (c f : Text) :
    ofJson (.array [.string c, .string f]) = .ok (ofTexts c f) := rfl

/-! ### Ways to a mount point -/

/-- The mount points that there are: the root, those given by two texts, those moved from another
one, and those read from a JSON value. -/
inductive Built : Mount → Prop where
  | root : Built root
  | texts (context filter : Text) : Built (ofTexts context filter)
  | context {m : Mount} (built : Built m) (text : Text) : Built (m.withContext text)
  | filter {m : Mount} (built : Built m) (text : Text) : Built (m.withFilter text)
  | json {value : Json} {m : Mount} (read : ofJson value = .ok m) : Built m

/-- Each way takes the names out of a path text, and keeps what it does not set. -/
theorem Built.isNames {m : Mount} (h : m.Built) : m.context.IsNames ∧ m.filter.IsNames := by
  induction h with
  | root => exact ⟨List.forall_mem_nil _, List.forall_mem_nil _⟩
  | texts context filter => exact ⟨Path.isNames_names context, Path.isNames_names filter⟩
  | context _ text ih => exact ⟨Path.isNames_names text, ih.2⟩
  | filter _ text ih => exact ⟨ih.1, Path.isNames_names text⟩
  | json hread =>
    obtain ⟨c, f, rfl⟩ := ofJson_eq_ok hread
    exact ⟨Path.isNames_names c, Path.isNames_names f⟩

/-- A mount point is what its two paths say. -/
theorem eq_of_paths {m n : Mount} (hcontext : m.context = n.context)
    (hfilter : m.filter = n.filter) : m = n := by
  cases m
  cases n
  cases hcontext
  cases hfilter
  rfl

theorem ofTexts_pathText {m : Mount} (hcontext : m.context.IsNames) (hfilter : m.filter.IsNames) :
    ofTexts (pathText m.context) (pathText m.filter) = m :=
  eq_of_paths (Path.names_slashed hcontext) (Path.names_slashed hfilter)

/-- A mount point holds names, and its two path texts spell it again: given as they are, as the
fields of an object, whatever else is in it and in whichever order, and as the items of an array. -/
theorem Built.ofJson_pathTexts {m : Mount} (h : m.Built) :
    (∀ s ∈ m.context ++ m.filter, s ≠ [] ∧ '/' ∉ s) ∧
      ofJson m.toJson = .ok m ∧
      (∀ fields, Json.field? fields contextField = some (.string (pathText m.context)) →
        Json.field? fields filterField = some (.string (pathText m.filter)) →
        ofJson (.object fields) = .ok m) ∧
      ofJson (.array [.string (pathText m.context), .string (pathText m.filter)]) = .ok m ∧
      ofTexts (pathText m.context) (pathText m.filter) = m := by
  obtain ⟨hcontext, hfilter⟩ := h.isNames
  have htexts := ofTexts_pathText hcontext hfilter
  have hobject {fields : List (Text × Json)}
      (hc : Json.field? fields contextField = some (.string (pathText m.context)))
      (hf : Json.field? fields filterField = some (.string (pathText m.filter))) :
      ofJson (.object fields) = .ok m := by
    rw [ofJson_object hc hf, htexts]
  refine ⟨List.forall_mem_append.2 ⟨hcontext, hfilter⟩, hobject rfl rfl, fun _ => hobject, ?_,
    htexts⟩
  rw [ofJson_array, htexts]

/-- A context path with slashes all over it, read from JSON, and a filter path set on top of it. -/
theorem Built.ofJson_pathTexts_slashes :
    ofJson (.array [.string "//shop///a b/".toList]) = .ok (ofTexts "shop/a b".toList []) ∧
      ((ofTexts "shop/a b".toList []).withFilter "app//".toList).Built ∧
      ofJson (.array [.string "/shop/a b".toList, .string "/app".toList]) =
        .ok ((ofTexts "shop/a b".toList []).withFilter "app//".toList) := by
  have hread : ofJson (.array [.string "//shop///a b/".toList]) =
      .ok (ofTexts "shop/a b".toList []) := by rfl
  have hbuilt : ((ofTexts "shop/a b".toList []).withFilter "app//".toList).Built :=
    .filter (.json hread) "app//".toList
  obtain ⟨-, -, -, harray, -⟩ := hbuilt.ofJson_pathTexts
  exact ⟨hread, hbuilt, harray⟩

end Mount

end Hyperlink
