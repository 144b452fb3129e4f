import Hyperlink.Proofs.LinkOrigin

/-!
Resolving a full target.

The address of a target with scheme and host has the target's own scheme, host and port. A port that
the scheme means is left out, though, and a host may have colons without brackets around it: then the
last colon of the host is read as that of a port. `parse_resolve_full_iff` says that nothing else can
take a full target to another server.
-/

namespace Hyperlink.Page

variable {target : Url}

/-- The address of a full target: the origin of the target without a default port, path, query and
fragment. -/
theorem resolve_full {scheme host : Text} (hscheme : target.scheme = some scheme)
    (hhost : target.host = some host) (page : Page) :
    (page.resolve target).value =
      Url.printOrigin (some scheme) (some host) (target.kind.explicitPort target.port) ++
        ((page.resolvedPath target).locatedText ++ target.suffix) := by
  have hown : (target.host <|> page.base.host) = some host := by rw [hhost]; rfl
  rw [resolve_some hown, hscheme, hhost, Url.kind, hscheme]
  rfl

/-- The address of a full target is read back with its scheme, host and port exactly when each colon
in the host stands between brackets, or a port is written behind it. -/
theorem parse_resolve_full_iff {input : Text} (htarget : Url.parse input = .ok target)
    (hfull : target.isFull = true) (page : Page) :
    (∃ v, Url.parse (page.resolve target).value = .ok v ∧ v.scheme = target.scheme ∧
        v.host = target.host ∧ v.effectivePort = target.effectivePort) ↔
      ∀ host ∈ target.host, ':' ∈ host →
        (Host.bracketed? host).isSome = true ∨
          (target.kind.explicitPort target.port).isSome = true := by
  obtain ⟨hschemeSome, hhostSome⟩ := Bool.and_eq_true_iff.1 hfull
  obtain ⟨scheme, hscheme⟩ := Option.isSome_iff_exists.1 hschemeSome
  obtain ⟨host, hhost⟩ := Option.isSome_iff_exists.1 hhostSome
  have hvalid : ∀ s ∈ some scheme, Scheme.isValid s = true :=
    hscheme ▸ Url.isValid_scheme_of_parse htarget
  have hvalidHost := Url.isValid_host_of_parse htarget host hhost
  have hends := Url.endsAuthority_suffix (page.resolvedPath target).head?_locatedText target
  rw [resolve_full hscheme hhost, Url.parse_origin hvalid hvalidHost hends]
  constructor
  · rintro ⟨v, hv, -, hvHost, -⟩ own hown hc
    obtain rfl : host = own := Option.some.inj (hhost.symm.trans hown)
    cases ha : Authority.parse
        (host ++ Port.tail (target.kind.explicitPort target.port)) with
    | error e => simp [ha, Except.map] at hv
    | ok a =>
      rw [ha] at hv
      obtain rfl := Except.ok.inj hv
      -- the host read is the one written, so the port read is the one behind it
      obtain rfl : a.host = host := Option.some.inj (hvHost.trans hhost)
      exact Authority.colon_of_parse ha hc
  · intro hcolon
    rw [Authority.parse_append hvalidHost (hcolon host hhost)]
    refine ⟨_, rfl, hscheme.symm, hhost.symm, ?_⟩
    have hkind : Scheme.kindOf (some scheme) = target.kind := by rw [Url.kind, hscheme]
    show (target.kind.explicitPort target.port <|> (Scheme.kindOf (some scheme)).defaultPort) = _
    rw [hkind, Scheme.Kind.orElse_explicitPort]
    rfl

/-- A host with a colon and the default port of another scheme, which is written. -/
theorem parse_resolve_full_written :
    ∃ v, Url.parse ((⟨{}, .root⟩ : Page).resolve
        { scheme := some "HTTPS".toList, host := some "a:81".toList, port := some 80
          segments := [[], ['x']] }).value = .ok v ∧
      v.scheme = some "HTTPS".toList ∧ v.host = some "a:81".toList ∧
      v.effectivePort = some 80 :=
  (@parse_resolve_full_iff _ "HTTPS://a:81:080/x".toList (by rfl) (by rfl) ⟨{}, .root⟩).2
    fun _ _ _ => Or.inr (by decide)

/-- The address of a full target may lead to another server: without the default port the host itself
is read as a host and a port. -/
theorem not_parse_resolve_full :
    ¬ ∀ (page : Page) (input : Text) (target : Url), Url.parse input = .ok target →
      target.isFull = true →
      ∃ v, Url.parse (page.resolve target).value = .ok v ∧ v.scheme = target.scheme ∧
        v.host = target.host ∧ v.effectivePort = target.effectivePort := by
  intro h
  obtain ⟨v, hv, -, hhost, -⟩ := h ⟨{}, .root⟩ "http://a:81:80/".toList
    { scheme := some "http".toList, host := some "a:81".toList, port := some 80
      segments := [[], []] } (by rfl) (by rfl)
  obtain rfl : ({ scheme := some "http".toList, host := some ['a'], port := some 81
                  segments := [[], []] } : Url) = v := Except.ok.inj hv
  exact absurd hhost (by decide)

end Hyperlink.Page
