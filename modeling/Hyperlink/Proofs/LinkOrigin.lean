import Hyperlink.Proofs.Relative
import Hyperlink.Proofs.Resolution
import Hyperlink.Proofs.SameHost

/-!
A link keeps the origin of its target.

Scheme, host and port of a target are compared with those of the page (`leaves_eq_false_iff`).
Either way, what the link is resolved to has the origin of the target (`sameOrigin_linkBy`): written
out when they differ, taken over from the page when they agree.
-/

namespace Hyperlink

/-- Two full addresses lead to the same server: scheme and host up to spelling, port up to the one
that a scheme means. -/
structure Url.SameOrigin (toAscii : Text → Option Text) (u v : Url) : Prop where
  scheme : ∃ own ∈ u.scheme, ∃ other ∈ v.scheme, own.sameLetters other = true
  host : ∃ own ∈ u.host, ∃ other ∈ v.host, Host.sameBy toAscii own other = true
  port : u.effectivePort = v.effectivePort

/-- A colon stands in a host only between brackets. -/
def Url.BracketsColon (u : Url) : Prop :=
  ∀ host ∈ u.host, ':' ∈ host → (Host.bracketed? host).isSome = true

/-- The default port means the same whether it is written or not. -/
theorem Scheme.Kind.orElse_explicitPort (k : Kind) (port : Option Port) :
    (k.explicitPort port <|> k.defaultPort) = (port <|> k.defaultPort) := by
  unfold explicitPort
  split
  · next h => rw [h]; cases k.defaultPort <;> rfl
  · rfl

namespace Page

variable {toAscii : Text → Option Text} {page : Page} {target : Url}

/-! ### The decision -/

/-- A full target stays on the server of the page exactly when it has the origin of the page. -/
theorem leaves_eq_false_iff (hpage : page.base.isFull = true) (htarget : target.isFull = true) :
    page.leaves toAscii target = false ↔ Url.SameOrigin toAscii page.base target := by
  simp only [Url.isFull, Bool.and_eq_true, Option.isSome_iff_exists] at hpage htarget
  obtain ⟨⟨ownScheme, hownScheme⟩, ownHost, hownHost⟩ := hpage
  obtain ⟨⟨scheme, hscheme⟩, host, hhost⟩ := htarget
  constructor
  · intro h
    simp only [leaves, hownScheme, hownHost, hscheme, hhost, Option.any_some, Option.isSome_some,
      Bool.true_or, Bool.true_and, Bool.or_eq_false_iff, Bool.not_eq_false', bne_eq_false_iff_eq]
      at h
    exact ⟨⟨_, hownScheme, _, hscheme, h.1.1⟩, ⟨_, hownHost, _, hhost, h.1.2⟩, h.2.symm⟩
  · rintro ⟨⟨_, h1, _, h2, hs⟩, ⟨_, h3, _, h4, hh⟩, hp⟩
    obtain rfl := Option.some.inj (hownScheme.symm.trans h1)
    obtain rfl := Option.some.inj (hscheme.symm.trans h2)
    obtain rfl := Option.some.inj (hownHost.symm.trans h3)
    obtain rfl := Option.some.inj (hhost.symm.trans h4)
    simp [leaves, hownScheme, hownHost, hscheme, hhost, hs, hh, hp]

/-- A full target is linked by its own address or by a relative reference. -/
theorem linkBy_of_full (h : target.isFull = true) :
    (page.linkBy toAscii target).value =
      if page.leaves toAscii target then (page.resolve target).value
      else (page.relativeLink target).value := by
  obtain ⟨hscheme, hhost⟩ := Bool.and_eq_true_iff.1 h
  have hschemeless : target.isSchemeless = false := by
    rw [Url.isSchemeless, ← Option.not_isSome, hscheme]
    rfl
  have hserver : target.isServerPath = false := by
    rw [Url.isServerPath, ← Option.not_isSome, hhost]
    rfl
  cases hleaves : page.leaves toAscii target with
  | true => simp [linkBy, hschemeless, hleaves, absoluteLink, hhost]
  | false => simp [linkBy, hschemeless, hleaves, hserver]

/-! ### Origins, written and read -/

/-- What holds of a part of the target and of that of the page holds of the one taken over. -/
theorem forall_mem_orElse {α : Type} {P : α → Prop} {own inherited : Option α}
    (hown : ∀ x ∈ own, P x) (hinherited : ∀ x ∈ inherited, P x) :
    ∀ x ∈ (own <|> inherited), P x := by
  cases own with
  | none => exact hinherited
  | some x => exact hown

/-- A resolved address is read back as the origin it was written for, with the cleaned path, query
and fragment behind it. -/
theorem parse_resolve_some {host : Text}
    (hscheme : ∀ s ∈ (target.scheme <|> page.base.scheme), Scheme.isValid s = true)
    (hhost : (target.host <|> page.base.host) = some host) (hvalid : Host.isValid host = true)
    (hcolon : ':' ∈ host → (Host.bracketed? host).isSome = true) :
    Url.parse (page.resolve target).value =
      .ok (Url.ofTail (target.scheme <|> page.base.scheme) (some host)
        ((Scheme.kindOf (target.scheme <|> page.base.scheme)).explicitPort
          (if target.host.isSome then target.port else target.port <|> page.base.port))
        (Text.cleanEnd ((page.resolvedPath target).locatedText ++ target.suffix))) := by
  have hends := Url.endsAuthority_suffix (page.resolvedPath target).head?_locatedText target
  rw [resolve_some hhost,
    Url.parse_origin_append hscheme hvalid (fun h => Or.inl (hcolon h)) hends]

/-- The origin of a resolved address is the one it was written for: a port that has been left out
still counts. -/
theorem parse_resolve {host : Text}
    (hscheme : ∀ s ∈ (target.scheme <|> page.base.scheme), Scheme.isValid s = true)
    (hhost : (target.host <|> page.base.host) = some host) (hvalid : Host.isValid host = true)
    (hcolon : ':' ∈ host → (Host.bracketed? host).isSome = true) :
    ∃ v, Url.parse (page.resolve target).value = .ok v ∧
      v.scheme = (target.scheme <|> page.base.scheme) ∧ v.host = some host ∧
      v.effectivePort =
        ((if target.host.isSome then target.port else target.port <|> page.base.port) <|>
          (Scheme.kindOf (target.scheme <|> page.base.scheme)).defaultPort) :=
  ⟨_, parse_resolve_some hscheme hhost hvalid hcolon, rfl, rfl,
    Scheme.Kind.orElse_explicitPort _ _⟩

/-- The address of a full target keeps its origin when it is resolved and read twice. -/
theorem sameOrigin_resolve_resolve {b : Text} (htarget : Url.parse b = .ok target)
    (hfull : target.isFull = true) (hcolon : target.BracketsColon) :
    ∃ r v, Url.parse (page.resolve target).value = .ok r ∧
      Url.parse (page.resolve r).value = .ok v ∧ Url.SameOrigin toAscii v target := by
  obtain ⟨hschemeSome, hhostSome⟩ := Bool.and_eq_true_iff.1 hfull
  obtain ⟨scheme, hscheme⟩ := Option.isSome_iff_exists.1 hschemeSome
  obtain ⟨host, hhost⟩ := Option.isSome_iff_exists.1 hhostSome
  have hvalid := Url.isValid_scheme_of_parse htarget
  have hvalidHost := Url.isValid_host_of_parse htarget host hhost
  have hown (u : Url) (hu : u.scheme = target.scheme) :
      (u.scheme <|> page.base.scheme) = target.scheme := by
    rw [hu, hscheme]
    rfl
  obtain ⟨r, hr, hrScheme, hrHost, hrPort⟩ := @parse_resolve page target host
    (by rwa [hown target rfl]) (by simp [hhost]) hvalidHost (hcolon host hhost)
  rw [hown target rfl] at hrScheme hrPort
  rw [hhost, Option.isSome_some, if_pos rfl] at hrPort
  obtain ⟨v, hv, hvScheme, hvHost, hvPort⟩ := @parse_resolve page r host
    (by rwa [hown r hrScheme]) (by simp [hrHost]) hvalidHost (hcolon host hhost)
  rw [hown r hrScheme] at hvScheme hvPort
  rw [hrHost, Option.isSome_some, if_pos rfl] at hvPort
  refine ⟨r, v, hr, hv, ⟨scheme, ?_, scheme, hscheme, scheme.sameLetters_refl⟩,
    ⟨host, hvHost, host, hhost, Host.sameBy_refl toAscii host⟩, ?_⟩
  · rw [hvScheme, hscheme]
    rfl
  · calc v.effectivePort = r.effectivePort := by
          rw [hvPort, Url.effectivePort, Url.kind, hrScheme]
      _ = target.effectivePort := hrPort

/-- A relative link has no origin of its own, so it is resolved to that of the page. -/
theorem sameOrigin_resolve_relativeLink {a b : Text} (hbase : Url.parse a = .ok page.base)
    (htarget : Url.parse b = .ok target) (hcolon : page.base.BracketsColon)
    (hsame : Url.SameOrigin toAscii page.base target) :
    ∃ r v, Url.parse (page.relativeLink target).value = .ok r ∧
      Url.parse (page.resolve r).value = .ok v ∧ Url.SameOrigin toAscii v target := by
  obtain ⟨dots, rest, hdots, htext⟩ := exists_relativeLink htarget page
  have hends := Url.endsAuthority_suffix (Path.head?_slashed rest) target
  obtain ⟨own, hown, other, hother, hhosts⟩ := hsame.host
  obtain ⟨v, hv, hvScheme, hvHost, hvPort⟩ := @parse_resolve page
    (Url.ofTail none none none (dots ++ Text.cleanEnd (Path.slashed rest ++ target.suffix))) own
    (by exact Url.isValid_scheme_of_parse hbase) hown
    (Url.isValid_host_of_parse hbase own hown) (hcolon own hown)
  refine ⟨_, v, by rw [htext, Url.parse_dots_append hdots hends], hv, ?_,
    ⟨own, hvHost, other, hother, hhosts⟩, ?_⟩
  · rw [hvScheme]
    exact hsame.scheme
  · rw [← hsame.port]
    exact hvPort

/-- The link to a full target is read back, and what it is resolved to has the target's origin. -/
theorem sameOrigin_linkBy {a b : Text} {base : Url} {mount : Mount}
    (hbase : Url.parse a = .ok base) (htarget : Url.parse b = .ok target)
    (hbaseFull : base.isFull = true) (htargetFull : target.isFull = true)
    (hbaseColon : base.BracketsColon) (htargetColon : target.BracketsColon) :
    ∃ r v, Url.parse ((⟨base, mount⟩ : Page).linkBy toAscii target).value = .ok r ∧
      Url.parse ((⟨base, mount⟩ : Page).resolve r).value = .ok v ∧
      Url.SameOrigin toAscii v target := by
  rw [linkBy_of_full htargetFull]
  cases hleaves : (⟨base, mount⟩ : Page).leaves toAscii target with
  | true => exact sameOrigin_resolve_resolve htarget htargetFull htargetColon
  | false =>
    have hsame := (leaves_eq_false_iff hbaseFull htargetFull).1 hleaves
    exact sameOrigin_resolve_relativeLink hbase htarget hbaseColon hsame

/-- The page `http://h/a/b` of an application at the root of the server. -/
def smallPage : Page where
  base := { scheme := some "http".toList, host := some ['h'], segments := [[], ['a'], ['b']] }

/-- The address `HTTP://H:80/c`. -/
def capitalTarget : Url :=
  { scheme := some "HTTP".toList, host := some ['H'], port := Scheme.Kind.http.defaultPort
    segments := [[], ['c']] }

/-- A target spelled in capitals, with its default port, from a page of the same server. -/
theorem sameOrigin_linkBy_capitals :
    ∃ r v, Url.parse (smallPage.linkBy (fun host => some host.lower) capitalTarget).value = .ok r ∧
      Url.parse (smallPage.resolve r).value = .ok v ∧
      Url.SameOrigin (fun host => some host.lower) v capitalTarget :=
  @sameOrigin_linkBy (fun host => some host.lower) _ "http://h/a/b".toList "HTTP://H:80/c".toList _
    _ (by rfl) (by rfl) (by rfl) (by rfl)
    (by simp [Url.BracketsColon]) (by simp [Url.BracketsColon, capitalTarget])

end Page

end Hyperlink
