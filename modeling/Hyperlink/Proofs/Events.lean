import Hyperlink.Proofs.ContextArgument

/-!
The log of a rendering.

Every rendering tells its answer last, and how it came to it. Before that, a relative link tells of
the page and of the target if they miss the mount point (`Mount.notices`), and an absolute link to a
host tells what it was resolved to. That is the whole log (`events_of_renderings`), so whatever is
told as a result is the answer (`Logged.Faithful`).
-/

namespace Hyperlink

namespace Mount

/-! ### Past the mount point -/

/-- The path of an address starts at the root of the server, and does not go on with segments that
spell the whole mount path. -/
def Misses (m : Mount) (u : Url) : Prop :=
  u.isAnchored = true ∧
    ∀ own below, u.segments = [] :: (own ++ below) → ¬ List.Forall₂ Spells m.path own

theorem misses_iff {m : Mount} {u : Url} :
    m.Misses u ↔ u.isAnchored = true ∧ enter? m.path u.segments.tail = none := by
  refine and_congr_right fun hanchored => ?_
  obtain ⟨p, hp⟩ := Path.exists_of_isRooted (Bool.and_eq_true_iff.1 hanchored).2
  rw [enter?_eq_none_iff, hp]
  simp

instance (m : Mount) (u : Url) : Decidable (m.Misses u) := decidable_of_iff' _ misses_iff

/-- What is told of an address that is seen from the filter root. -/
def notices (m : Mount) (u : Url) : List Event := if m.Misses u then [.outside u.print] else []

theorem strip_events (m : Mount) (u : Url) : (m.strip u).events = m.notices u := by
  unfold strip notices
  by_cases hanchored : u.isAnchored = true
  · rw [if_pos hanchored]
    cases hbelow : enter? m.path u.segments.tail with
    | some below =>
      rw [if_neg (by simp [misses_iff, hbelow])]
      rfl
    | none =>
      rw [if_pos (misses_iff.2 ⟨hanchored, hbelow⟩)]
      rfl
  · rw [if_neg hanchored, if_neg (by simp [misses_iff, hanchored])]
    rfl

theorem level_of_mem_notices {m : Mount} {u : Url} {e : Event} (h : e ∈ m.notices u) :
    e.level = .debug := by
  unfold notices at h
  split at h
  · rw [List.mem_singleton.1 h]
    rfl
  · simp at h

end Mount

/-! ### Results that are told -/

namespace Logged

/-- Every result told on the way to an answer is that answer. -/
def Faithful (x : Logged Text) : Prop :=
  ∀ e ∈ x.events, e.level = .trace → ∃ outcome, e = .rendered outcome x.value

theorem faithful_pure (text : Text) : (pure text : Logged Text).Faithful := List.forall_mem_nil _

/-- What is told before an answer does not matter if none of it is a result. -/
theorem faithful_of_events {x : Logged Text} {before : List Event} {outcome : Outcome}
    (h : x.events = before ++ [.rendered outcome x.value])
    (hbefore : ∀ e ∈ before, e.level = .debug) : x.Faithful := by
  intro e he hlevel
  rw [h] at he
  rcases List.mem_append.1 he with he | he
  · exact absurd ((hbefore e he).symm.trans hlevel) (by decide)
  · exact ⟨outcome, List.mem_singleton.1 he⟩

theorem faithful_render (outcome : Outcome) (text : Text) : (render outcome text).Faithful :=
  faithful_of_events (List.nil_append _).symm (List.forall_mem_nil _)

/-- A result may be told again under another outcome. -/
theorem Faithful.bind_render {x : Logged Text} (h : x.Faithful) (outcome : Outcome) :
    (x >>= render outcome).Faithful := by
  intro e he hlevel
  rcases List.mem_append.1 he with he | he
  · exact h e he hlevel
  · exact ⟨outcome, List.mem_singleton.1 he⟩

end Logged

namespace Page

section Target

variable (toAscii : Text → Option Text) (page : Page) (target : Url)

theorem resolve_events :
    (page.resolve target).events = [.rendered .resolved (page.resolve target).value] := rfl

theorem faithful_resolve : (page.resolve target).Faithful := Logged.faithful_render _ _

/-! ### Relative links -/

/-- The page is looked at before the target, and neither is if the target is seen from the context
root. -/
theorem relativeLink_events :
    (page.relativeLink target).events =
      (if target.contextRelative then []
        else page.mount.notices page.base ++ page.mount.notices target) ++
        [.rendered .relative (page.relativeLink target).value] := by
  rw [relativeLink]
  cases hflag : target.contextRelative with
  | true => rfl
  | false => simp [Mount.strip_events]

theorem faithful_relativeLink : (page.relativeLink target).Faithful := by
  refine Logged.faithful_of_events (page.relativeLink_events target) fun e he => ?_
  split at he
  · simp at he
  · exact (List.mem_append.1 he).elim Mount.level_of_mem_notices Mount.level_of_mem_notices

/-! ### Links -/

/-- How the link to a target comes to its text. -/
def outcome : Outcome :=
  if target.isSchemeless then .schemeless
  else if page.leaves toAscii target then .absolute
  else if target.isServerPath then .serverPath
  else .relative

/-- The four ways of a link. -/
theorem linkBy_cases :
    (page.outcome toAscii target = .schemeless ∧
        page.linkBy toAscii target = .render .schemeless target.print) ∨
      (page.outcome toAscii target = .absolute ∧
        page.linkBy toAscii target = page.absoluteLink target >>= .render .absolute) ∨
      (page.outcome toAscii target = .serverPath ∧
        page.linkBy toAscii target = .render .serverPath target.print) ∨
      (page.outcome toAscii target = .relative ∧
        page.linkBy toAscii target = page.relativeLink target) := by
  unfold outcome linkBy
  split
  · exact Or.inl ⟨rfl, rfl⟩
  · split
    · exact Or.inr (Or.inl ⟨rfl, rfl⟩)
    · split
      · exact Or.inr (Or.inr (Or.inl ⟨rfl, rfl⟩))
      · exact Or.inr (Or.inr (Or.inr ⟨rfl, rfl⟩))

theorem absoluteLink_events :
    (page.absoluteLink target).events =
      if target.host.isSome then (page.resolve target).events else [] := by
  rw [absoluteLink]
  split <;> rfl

theorem faithful_absoluteLink : (page.absoluteLink target).Faithful := by
  rw [absoluteLink]
  split
  · exact page.faithful_resolve target
  · exact Logged.faithful_pure _

theorem linkBy_events :
    (page.linkBy toAscii target).events =
      if page.outcome toAscii target = .relative then (page.relativeLink target).events
      else
        (if page.outcome toAscii target = .absolute ∧ target.host.isSome = true then
            (page.resolve target).events
          else []) ++
          [.rendered (page.outcome toAscii target) (page.linkBy toAscii target).value] := by
  rcases page.linkBy_cases toAscii target with
    ⟨ho, hlink⟩ | ⟨ho, hlink⟩ | ⟨ho, hlink⟩ | ⟨ho, hlink⟩
  · rw [hlink, ho]
    rfl
  · -- the only way on which another whole rendering speaks first
    rw [hlink, ho, Logged.bind_events, absoluteLink_events]
    simp
  · rw [hlink, ho]
    rfl
  · rw [hlink, if_pos ho]

theorem faithful_linkBy : (page.linkBy toAscii target).Faithful := by
  rcases page.linkBy_cases toAscii target with ⟨-, h⟩ | ⟨-, h⟩ | ⟨-, h⟩ | ⟨-, h⟩
  · exact h ▸ Logged.faithful_render _ _
  · exact h ▸ (page.faithful_absoluteLink target).bind_render _
  · exact h ▸ Logged.faithful_render _ _
  · exact h ▸ page.faithful_relativeLink target

end Target

/-! ### Links from the context root -/

section Context

variable {page : Page}

theorem contextLink_events_of_error {path : Option Text} {fault : LinkError}
    (h : (page.contextLink path).value = .error fault) : (page.contextLink path).events = [] := by
  cases path with
  | none => rfl
  | some s =>
    cases hparse : Url.parse s.unslash with
    | error e =>
      rw [contextLink_of_error hparse]
      rfl
    | ok u =>
      rw [contextLink_of_ok hparse] at h
      split at h <;> simp at h

theorem contextLink_events_of_ok {s : Text} {u : Url} (h : Url.parse s.unslash = .ok u) :
    ∃ link, (page.contextLink (some s)).value = .ok link ∧
      (page.contextLink (some s)).events =
        if u.host.isSome then [] else [.rendered .relative link] := by
  rw [contextLink_of_ok h]
  split
  · exact ⟨_, rfl, rfl⟩
  · refine ⟨_, rfl, ?_⟩
    rw [Logged.map_events, relativeLink_events]
    rfl

end Context

/-- The whole log of each rendering. -/
theorem events_of_renderings (toAscii : Text → Option Text) (page : Page) (target : Url) :
    (page.resolve target).events = [.rendered .resolved (page.resolve target).value] ∧
      (page.relativeLink target).events =
        (if target.contextRelative then []
          else page.mount.notices page.base ++ page.mount.notices target) ++
          [.rendered .relative (page.relativeLink target).value] ∧
      (page.linkBy toAscii target).events =
        (if page.outcome toAscii target = .relative then (page.relativeLink target).events
        else
          (if page.outcome toAscii target = .absolute ∧ target.host.isSome = true then
              (page.resolve target).events
            else []) ++
            [.rendered (page.outcome toAscii target) (page.linkBy toAscii target).value]) ∧
      ((page.resolve target).Faithful ∧ (page.relativeLink target).Faithful ∧
        (page.linkBy toAscii target).Faithful) ∧
      (∀ path fault, (page.contextLink path).value = .error fault →
        (page.contextLink path).events = []) ∧
      ∀ path u, Url.parse path.unslash = .ok u →
        ∃ link, (page.contextLink (some path)).value = .ok link ∧
          (page.contextLink (some path)).events =
            if u.host.isSome then [] else [.rendered .relative link] :=
  ⟨page.resolve_events target, page.relativeLink_events target, page.linkBy_events toAscii target,
    ⟨page.faithful_resolve target, page.faithful_relativeLink target,
      page.faithful_linkBy toAscii target⟩,
    fun _ _ => contextLink_events_of_error, fun _ _ => contextLink_events_of_ok⟩

/-- A page and a target that both miss the mount point. -/
example :
    (relativeLink ⟨{ segments := [[], ['a']] }, .ofTexts "/ctx".toList []⟩
      { segments := [[], ['b']] }).events =
      [.outside "/a".toList, .outside "/b".toList, .rendered .relative "./b".toList] := by rfl

end Page

end Hyperlink
