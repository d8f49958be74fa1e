import GrpcPhp.Channel.Construct

/-!
# Credentials and encryption

A channel with credentials should never send in the clear.  tonic encrypts a connection only
if its endpoint has a TLS configuration and a URI with scheme `https`.  The configuration
follows the credentials, however deeply they are nested.  The scheme follows the *target*:
a target that brings a scheme of its own keeps it, whatever the credentials.
-/

namespace GrpcPhp

open Lib Php

variable {X : Transport} {runtime : Except String Unit} {target : String} {args : ZendHashTable}
  {tls : ClientTlsConfig} {e e' : Endpoint}

/-! ## Endpoints -/

theorem setUserAgent_uri (h : Endpoint.setUserAgent X args e = .ok e') : e'.uri = e.uri := by
  unfold Endpoint.setUserAgent at h
  split at h
  · cases h
    rfl
  · split at h
    · cases h
      rfl
    · cases h

theorem setTlsConfig_eq (h : Endpoint.setTlsConfig X (some tls) e = .ok e') :
    e' = { e with tlsConfig := some tls } := by
  simp only [Endpoint.setTlsConfig] at h
  split at h
  · exact (Except.ok.inj h).symm
  · cases h

theorem enterRuntime_eq (h : enterRuntime runtime e = .ok e') :
    e' = { e with connectTimeout := some 20000 } := by
  unfold enterRuntime at h
  split at h
  · exact (Except.ok.inj h).symm
  · cases h

/-- An endpoint has the URI of its target and the TLS configuration it was built with. -/
theorem buildEndpoint_spec (h : buildEndpoint X runtime target args (some tls) = .ok e) :
    X.fromShared (uriTarget target (some tls)) = .ok e.uri
      ∧ e.tlsConfig = some (overrideDomainName args tls) := by
  unfold buildEndpoint at h
  cases huri : X.fromShared (uriTarget target (some tls)) with
  | error text =>
      rw [huri] at h
      cases h
  | ok uri =>
      rw [huri] at h
      obtain ⟨e₁, hagent, h⟩ := bind_eq_ok_iff.mp h
      obtain ⟨e₂, htls, h⟩ := bind_eq_ok_iff.mp h
      obtain rfl := enterRuntime_eq h
      obtain rfl := setTlsConfig_eq htls
      have he : e₁.uri = uri := (setUserAgent_uri hagent).trans (Endpoint.configure_uri args _)
      exact ⟨by rw [he], rfl⟩

/-- The scheme of the URI for a target with credentials. -/
theorem scheme_uriTarget_iff {uri : Uri}
    (h : X.fromShared (uriTarget target (some tls)) = .ok uri) :
    uri.scheme = some "https" ↔ ("://".toList <:+: target.toList →
      ∃ u, X.fromShared target = .ok u ∧ u.scheme = some "https") := by
  by_cases hscheme : "://".toList <:+: target.toList
  · rw [uriTarget, if_pos hscheme] at h
    constructor
    · exact fun hu _ ↦ ⟨uri, h, hu⟩
    · intro hu
      obtain ⟨u, hu, hs⟩ := hu hscheme
      obtain rfl := Except.ok.inj (h.symm.trans hu)
      exact hs
  · rw [uriTarget, if_neg hscheme, if_pos (by rfl)] at h
    exact iff_of_true (X.scheme_https h) fun hin ↦ absurd hin hscheme

/-! ## Channels -/

/-- **A new channel with credentials is encrypted exactly if its target does not say
otherwise.**  The credentials are any that were made by nesting `createSsl`, `createDefault`
and `createComposite`, with the default roots changing in between.  The endpoint has the TLS
configuration of the innermost ones, up to the domain name; its scheme is `https` unless the
target has a scheme of its own that is not. -/
theorem encrypted_iff {actions : List CredentialsAction} {heap : CredentialsHeap}
    (hrun : Run (pgraph CredentialsHeap.step) {} actions heap) {handle : ℕ}
    {c : GrpcChannelCredentials} (hc : heap.get? handle = some c)
    (hargs : args.get? "credentials" = some (.channelCredentials handle)) {r r' : Registry}
    {ch : GrpcChannel}
    (h : GrpcChannel.construct X heap runtime target args r = (.ok ch, r'))
    (hnew : r.transports.length < r'.transports.length) :
    ∃ shared tls, r'.transports = r.transports ++ [shared]
      ∧ ch.inner.map ChannelInner.shared = some r.transports.length
      ∧ Innermost heap.objects handle tls
      ∧ shared.channel.tlsConfig = some (overrideDomainName args tls)
      ∧ (shared.channel.uri.scheme = some "https" ↔ ("://".toList <:+: target.toList →
          ∃ u, X.fromShared target = .ok u ∧ u.scheme = some "https")) := by
  have hnested : heap.Nested :=
    hrun.state_invariant (I := CredentialsHeap.Nested)
      (fun _ _ hget ↦ by simp [CredentialsHeap.get?] at hget)
      fun _ _ _ hn hs ↦ hn.step hs
  rcases construct_cases h with ⟨e, he, -⟩ | ⟨scan, creds, shared, -, hcreds, hok, ho⟩
  · cases he
  · obtain rfl := Except.ok.inj (hcreds.symm.trans (extractCredentials_eq hargs hc))
    obtain rfl := Except.ok.inj hok
    cases ho with
    | reused hf => exact absurd hnew (Nat.lt_irrefl _)
    | built hf hbuild =>
        obtain ⟨huri, htls⟩ := buildEndpoint_spec hbuild
        exact ⟨_, _, rfl, rfl, hnested handle c hc, htls, scheme_uriTarget_iff huri⟩

/-- The heap of a thread that has made composite credentials from `createSsl`. -/
def CredentialsHeap.composite : CredentialsHeap where
  statics := { next := 3 }
  objects :=
    [(.createSsl none none none, ⟨.ssl { webpkiRoots := true }, 1⟩),
      (.createComposite 0 ⟨0⟩, ⟨.composite { webpkiRoots := true } ⟨0⟩, 2⟩)]

/-- Composite credentials with a bare target. -/
theorem encrypted_iff_bare :
    ∃ ch r', GrpcChannel.construct .plain .composite (.ok ()) "localhost:1"
        [(.str "credentials", .channelCredentials 1)] {} = (.ok ch, r') ∧
      ∃ shared tls, r'.transports = [shared]
        ∧ ch.inner.map ChannelInner.shared = some 0
        ∧ Innermost CredentialsHeap.composite.objects 1 tls
        ∧ shared.channel.tlsConfig = some (overrideDomainName
            [(.str "credentials", .channelCredentials 1)] tls)
        ∧ shared.channel.uri.scheme = some "https" := by
  have hrun : Run (pgraph CredentialsHeap.step) {} [.create (.createSsl none none none),
      .create (.createComposite 0 ⟨0⟩)] .composite := Run.of_foldlM rfl
  obtain ⟨ch, hconstruct⟩ := Fallible.exists_ok (p := GrpcChannel.construct .plain .composite
    (.ok ()) "localhost:1" [(.str "credentials", .channelCredentials 1)] {}) (by decide +kernel)
  have hargs : ZendHashTable.get? [(.str "credentials", .channelCredentials 1)] "credentials"
      = some (.channelCredentials 1) := by simp [ZendHashTable.get?, ArrayKey.isStr]
  obtain ⟨shared, tls, htransports, hshared, hinner, htls, hscheme⟩ :=
    encrypted_iff hrun (c := ⟨.composite { webpkiRoots := true } ⟨0⟩, 2⟩) rfl hargs hconstruct
      (by decide +kernel)
  exact ⟨ch, _, hconstruct, shared, tls, htransports, hshared, hinner, htls,
    hscheme.mpr fun hin ↦ absurd hin (by decide +kernel)⟩

/-- `createSsl` credentials with a target that says `http`: the new endpoint has the TLS
configuration and the scheme `http`. -/
theorem credentials_in_the_clear :
    (∃ actions, Run (pgraph CredentialsHeap.step) {} actions .composite) ∧
      (GrpcChannel.construct .plain .composite (.ok ()) "http://localhost:1"
        [(.str "credentials", .channelCredentials 0)] {}).1.toOption.isSome = true ∧
      ((GrpcChannel.construct .plain .composite (.ok ()) "http://localhost:1"
        [(.str "credentials", .channelCredentials 0)] {}).2.transports.map fun shared ↦
          (shared.channel.tlsConfig.isSome, shared.channel.uri.scheme))
        = [(true, some "http")] := by
  have hrun : Run (pgraph CredentialsHeap.step) {} [.create (.createSsl none none none),
      .create (.createComposite 0 ⟨0⟩)] .composite := Run.of_foldlM rfl
  exact ⟨⟨_, hrun⟩, by decide +kernel⟩

end GrpcPhp
