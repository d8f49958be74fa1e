import GrpcPhp.Channel.Extension

/-!
# Sharing transports

The registry of a reachable state is an interning table that has answered the constructions
so far (`Extension.Sound`), so two channels share a transport exactly if they were registered
under the same text (`Sound.sharesTransport_iff`).  What the text depends on gives the two
directions.  Channels that ask for the same thing share a transport, whatever they are given
(`Sound.reuse`).  The converse, that channels which share a transport asked for the same thing,
needs texts that can be read back: `sameRequest_of_run` says what keeps them readable.
-/

namespace GrpcPhp

open Lib Php

namespace Extension

variable {T : Tonic} {X : Transport} {s s' : Extension} {a : ThreadAction}

/-! ## The registry -/

/-- All constructions were accepted, and the registry has answered them. -/
structure Sound (X : Transport) (s : Extension) : Prop where
  accepted : ∀ e ∈ s.constructions, ∃ scan creds shared, e.Accepted X s.heap scan creds shared
  serves : s.registry.table.Serves (s.constructions.map (Construction.served X s.heap))

theorem Sound.step (hs : s.Sound X) (h : s.step T X a = some s') : s'.Sound X := by
  rcases step_cases h with ⟨c, -, hheap, hreg, hcons⟩
    | ⟨runtime, target, args, ch, -, hconstruct, hheap, hcons⟩ | ⟨hheap, htable, hcons⟩
  · refine ⟨fun e he ↦ ?_, ?_⟩
    · obtain ⟨scan, creds, shared, ha⟩ := hs.accepted e (hcons ▸ he)
      exact ⟨scan, creds, shared, ha.step hheap⟩
    · have hserved : s'.constructions.map (Construction.served X s'.heap)
          = s.constructions.map (Construction.served X s.heap) := by
        rw [hcons]
        refine List.map_congr_left fun e he ↦ ?_
        obtain ⟨scan, creds, shared, ha⟩ := hs.accepted e he
        rw [(ha.step hheap).served_eq, ha.served_eq]
      rw [hserved, hreg]
      exact hs.serves
  · obtain ⟨scan, creds, shared, hnew, ho⟩ := Construction.accepted_of_construct X hconstruct
    refine ⟨fun e he ↦ ?_, ?_⟩
    · rw [hcons, List.mem_append, List.mem_singleton] at he
      rw [hheap]
      rcases he with he | rfl
      · exact hs.accepted e he
      · exact ⟨scan, creds, shared, hnew⟩
    · rw [hcons, hheap, List.map_append, List.map_singleton, hnew.served_eq]
      exact ho.serves hs.serves
  · exact ⟨by rw [hheap, hcons]; exact hs.accepted, by rw [hheap, hcons, htable]; exact hs.serves⟩

/-- The registry of every reachable state. -/
theorem sound_of_run {as : List ThreadAction} (h : Run (pgraph (step T X)) {} as s) : s.Sound X :=
  h.state_invariant (I := Sound X) ⟨fun _ he ↦ absurd he List.not_mem_nil, .empty⟩
    fun _ _ _ hs hstep ↦ hs.step hstep

/-- Two constructions share a transport exactly if they have the same text. -/
theorem Sound.sharesTransport_iff (hs : s.Sound X) :
    s.constructions.Pairwise fun e e' ↦ e.SharesTransport e' ↔
      ∃ k, e.key X s.heap = some k ∧ e'.key X s.heap = some k := by
  refine (List.pairwise_map.mp hs.serves.shared_iff).imp_of_mem fun {e e'} he he' hiff ↦ ?_
  obtain ⟨scan, creds, shared, ha⟩ := hs.accepted e he
  obtain ⟨scan', creds', shared', ha'⟩ := hs.accepted e' he'
  rw [ha.sharesTransport_iff ha', ha.key_eq, ha'.key_eq]
  rwa [ha.served_eq, ha'.served_eq] at hiff

/-- Whether two constructions share a transport is decided by what they asked for, if it asks
for sharing. -/
theorem Sound.reuse (hs : s.Sound X) : s.constructions.Pairwise fun e e' ↦
    (e.Persistent X → e'.Persistent X → e.SameRequest X e' → e.SharesTransport e')
      ∧ (¬ e.Persistent X ∨ ¬ e'.Persistent X → ¬ e.SharesTransport e') := by
  refine hs.sharesTransport_iff.imp_of_mem fun {e e'} he he' hiff ↦ ?_
  obtain ⟨scan, creds, shared, ha⟩ := hs.accepted e he
  obtain ⟨scan', creds', shared', ha'⟩ := hs.accepted e' he'
  rw [ha.key_eq, ha'.key_eq] at hiff
  rw [hiff]
  constructor
  · intro hp hp' hsame
    obtain ⟨k, hk⟩ := ha.persistent_iff.mp hp
    exact ⟨k, hk, (ha.persistKey_eq ha' hp hp' hsame).symm.trans hk⟩
  · rintro hnot ⟨k, hk, hk'⟩
    exact hnot.elim (fun hp ↦ hp (ha.persistent_iff.mpr ⟨k, hk⟩))
      fun hp ↦ hp (ha'.persistent_iff.mpr ⟨k, hk'⟩)

end Extension

/-! ## Texts that can be read back -/

/-- The text of a channel can be read back. -/
def Separate (X : Transport) (target : String) (args : ZendHashTable) : Prop :=
  ¬ "|creds=".toList <:+: target.toList ∧ ∀ p ∈ plainArgs X args, Legible X p

/-- The credentials of a channel have a call plugin. -/
def hasPlugin (heap : CredentialsHeap) (args : ZendHashTable) : Bool :=
  ((credentialsArg args).bind heap.get?).any fun c ↦ c.inner.callPlugin.isSome

/-- Ids of credentials are not reused, and the texts of channels that are registered can be
read back. -/
def Unambiguous (X : Transport) (s : Extension) : ThreadAction → Prop
  | .credentials a => s.heap.IdsLeft a
  | .constructChannel _ target args => forceNew X args.entries = false →
      hasPlugin s.heap args.entries = false → Separate X target args.entries
  | .constructCall _ _ _ | .onCall _ _ | .close _ | .onTransport _ _ => True

namespace Construction.Accepted

variable {X : Transport} {heap : CredentialsHeap} {e e' : Construction} {scan scan' : ArgScan}
  {creds creds' : Extracted} {shared shared' : ℕ}

/-- A persistent channel was made without a plugin. -/
theorem hasPlugin_eq (h : e.Accepted X heap scan creds shared) (hp : e.Persistent X) :
    hasPlugin heap e.args.entries = false := by
  have hnone : creds.callPlugin = none := by
    have := hp.2
    rw [h.created_eq] at this
    exact this
  unfold hasPlugin
  rcases extractCredentials_cases h.extracted with ⟨hn, -⟩ | ⟨i, c, hi, hc, rfl⟩
  · simp [hn]
  · have hc' : c.inner.callPlugin = none := hnone
    simp [hi, hc, hc']

/-- Credentials with the same id are the same; id 0 is for none. -/
theorem credentialsArg_eq (h : e.Accepted X heap scan creds shared)
    (h' : e'.Accepted X heap scan' creds' shared') (hn : heap.Numbered)
    (hid : creds.credsId = creds'.credsId) :
    credentialsArg e.args.entries = credentialsArg e'.args.entries := by
  rcases extractCredentials_cases h.extracted with ⟨hi, rfl⟩ | ⟨i, c, hi, hc, rfl⟩
  · rcases extractCredentials_cases h'.extracted with ⟨hj, -⟩ | ⟨j, c', -, hc', rfl⟩
    · rw [hi, hj]
    · exact absurd hid (hn.id_pos hc').ne
  · rcases extractCredentials_cases h'.extracted with ⟨-, rfl⟩ | ⟨j, c', hj, hc', rfl⟩
    · exact absurd hid (hn.id_pos hc).ne'
    · rw [hi, hj, hn.handle_eq hc hc' hid]

/-- Channels with the same text that can be read back asked for the same thing. -/
theorem sameRequest (h : e.Accepted X heap scan creds shared)
    (h' : e'.Accepted X heap scan' creds' shared') (hn : heap.Numbered)
    (hsep : Separate X e.target e.args.entries) (hsep' : Separate X e'.target e'.args.entries)
    {k : String} (hk : persistKey e.target scan creds = some k)
    (hk' : persistKey e'.target scan' creds' = some k) : e.SameRequest X e' := by
  obtain ⟨htarget, hid, hperm⟩ :=
    persistKey_inj hsep.1 hsep'.1 h.scanned h'.scanned hsep.2 hsep'.2 hk hk'
  exact ⟨htarget, h.credentialsArg_eq h' hn hid, (argMap_eq_iff X e.args e'.args).mpr hperm⟩

end Construction.Accepted

namespace Extension

variable {T : Tonic} {X : Transport} {s s' : Extension} {a : ThreadAction}

/-- The texts of the registered channels can be read back. -/
structure Readable (X : Transport) (s : Extension) : Prop where
  numbered : s.heap.Numbered
  separate : ∀ e ∈ s.constructions, e.Persistent X → Separate X e.target e.args.entries

theorem Readable.step (hr : s.Readable X) (hu : Unambiguous X s a)
    (h : s.step T X a = some s') : s'.Readable X := by
  rcases step_cases h with ⟨c, rfl, hheap, -, hcons⟩
    | ⟨runtime, target, args, ch, rfl, hconstruct, hheap, hcons⟩ | ⟨hheap, -, hcons⟩
  · exact ⟨hr.numbered.step hu hheap, hcons ▸ hr.separate⟩
  · obtain ⟨scan, creds, shared, hnew, -⟩ := Construction.accepted_of_construct X hconstruct
    refine ⟨hheap ▸ hr.numbered, fun e he hp ↦ ?_⟩
    rw [hcons, List.mem_append, List.mem_singleton] at he
    rcases he with he | rfl
    · exact hr.separate e he hp
    · exact hu hp.1 (hnew.hasPlugin_eq hp)
  · exact ⟨hheap ▸ hr.numbered, hcons ▸ hr.separate⟩

theorem readable_of_run {as : List ThreadAction}
    (h : Run (Such (pgraph (step T X)) (Unambiguous X)) {} as s) : s.Readable X :=
  h.state_invariant (I := Readable X) ⟨.empty, fun _ he ↦ absurd he List.not_mem_nil⟩
    fun _ _ _ hr hstep ↦ hr.step hstep.1 hstep.2

/-- Channels that share a transport asked for the same thing, if their texts can be read back. -/
theorem Sound.pairwise_sameRequest (hs : s.Sound X) (hr : s.Readable X) :
    s.constructions.Pairwise fun e e' ↦ e.SharesTransport e' → e.SameRequest X e' := by
  refine hs.sharesTransport_iff.imp_of_mem fun {e e'} he he' hiff hshares ↦ ?_
  obtain ⟨scan, creds, shared, ha⟩ := hs.accepted e he
  obtain ⟨scan', creds', shared', ha'⟩ := hs.accepted e' he'
  obtain ⟨k, hk, hk'⟩ := hiff.mp hshares
  rw [ha.key_eq] at hk
  rw [ha'.key_eq] at hk'
  exact ha.sameRequest ha' hr.numbered (hr.separate e he (ha.persistent_iff.mpr ⟨k, hk⟩))
    (hr.separate e' he' (ha'.persistent_iff.mpr ⟨k, hk'⟩)) hk hk'

end Extension

/-- **Reuse is sound where texts can be read back**: in every run whose steps are all
unambiguous, two channels that share a transport have the same target, the same credentials
and the same arguments. -/
theorem sameRequest_of_run {T : Tonic} {X : Transport} {as : List ThreadAction} {s : Extension}
    (h : Run (Such (pgraph (Extension.step T X)) (Unambiguous X)) {} as s) :
    s.constructions.Pairwise fun e e' ↦ e.SharesTransport e' → e.SameRequest X e' :=
  (Extension.sound_of_run h.of_such).pairwise_sameRequest (Extension.readable_of_run h)

/-- A thread that has made credentials once. -/
def Extension.credentialed : Extension where
  heap := ⟨{ next := 2 }, [(.createSsl none none none, ⟨.ssl { webpkiRoots := true }, 1⟩)]⟩

/-- A channel with credentials, one without, and the first one again. -/
def ThreadAction.alternating : List ThreadAction :=
  [.constructChannel (.ok ()) "localhost:1"
      ⟨[(.str "credentials", .channelCredentials 0), (.str "a", .long I64.max)], by decide⟩,
    .constructChannel (.ok ()) "localhost:1" ⟨[(.str "a", .long I64.max)], by decide⟩,
    .constructChannel (.ok ()) "localhost:1"
      ⟨[(.str "a", .long I64.max), (.str "credentials", .channelCredentials 0)], by decide⟩]

/-- The first and the last channel share a transport, and no others do. -/
theorem sameRequest_of_run_alternating : ∃ s,
    Run (Such (pgraph (Extension.step .ascii .plain)) (Unambiguous .plain)) {}
        (.credentials (.create (.createSsl none none none)) :: ThreadAction.alternating) s
      ∧ s.constructions.map Construction.transport = [some 0, some 1, some 0]
      ∧ s.constructions.Pairwise fun e e' ↦ e.SharesTransport e' → e.SameRequest .plain e' := by
  have hlegible : Legible .plain (toUtf8 "a", .int I64.max) := by
    refine ⟨⟨"a", rfl⟩, ?_, fun _ h ↦ by cases h⟩
    rw [Transport.keyText_toUtf8]
    exact ⟨by decide, by decide, by decide⟩
  have hargs : ∀ {args : ZendHashTable}, plainArgs .plain args = [(toUtf8 "a", .int I64.max)] →
      Separate .plain "localhost:1" args := fun h ↦ ⟨by decide, by simpa [h] using hlegible⟩
  have hseparate : ∀ a ∈ ThreadAction.alternating, ∀ s, Unambiguous .plain s a := by
    intro a ha s
    simp only [ThreadAction.alternating, List.mem_cons, List.not_mem_nil, or_false] at ha
    rcases ha with rfl | rfl | rfl <;> exact fun _ _ ↦ hargs (by decide +kernel)
  have hfirst : Run (Such (pgraph (Extension.step .ascii .plain)) (Unambiguous .plain)) {}
      [.credentials (.create (.createSsl none none none))] .credentialed :=
    .single ⟨show 1 < 2 ^ 64 by decide, rfl⟩
  obtain ⟨s, hrun, hs⟩ := Run.exists_of_any (Extension.step .ascii .plain) .credentialed
    ThreadAction.alternating
    (fun s ↦ s.constructions.map Construction.transport = [some 0, some 1, some 0])
    (by decide +kernel)
  have hrun := hfirst.append (hrun.such_of_forall hseparate)
  exact ⟨s, hrun, of_decide_eq_true hs, sameRequest_of_run hrun⟩

/-- A channel without credentials, and one with credentials whose target contains the text
that the registry writes for the first. -/
def ThreadAction.lookalikes : List ThreadAction :=
  [.credentials (.create (.createSsl none none none)),
    .constructChannel (.ok ()) "localhost:1"
      ⟨[(.str "creds", .string (toUtf8 "1|z=1"))], by decide⟩,
    .constructChannel (.ok ()) "localhost:1|creds=0"
      ⟨[(.str "credentials", .channelCredentials 0), (.str "z", .string (toUtf8 "1"))], by decide⟩]

/-- The second channel has credentials and gets the transport of the first, which is not
encrypted. -/
theorem plaintext_transport_shared : ∃ s e e',
    Run (pgraph (Extension.step .ascii .plain)) {} ThreadAction.lookalikes s
      ∧ s.constructions = [e, e'] ∧ e.SharesTransport e' ∧ e.target ≠ e'.target
      ∧ credentialsArg e.args.entries = none ∧ credentialsArg e'.args.entries = some 0
      ∧ ¬ e.SameRequest .plain e'
      ∧ s.registry.transports.map (fun t ↦ (t.channel.tlsConfig, t.channel.uri.scheme))
        = [(none, some "http")] := by
  obtain ⟨s, hrun, hs⟩ := Run.exists_of_any (Extension.step .ascii .plain) {}
    ThreadAction.lookalikes
    (fun s ↦ s.constructions.map (fun e ↦ (e.transport, e.target, credentialsArg e.args.entries))
        = [(some 0, "localhost:1", none), (some 0, "localhost:1|creds=0", some 0)]
      ∧ s.registry.transports.map (fun t ↦ (t.channel.tlsConfig, t.channel.uri.scheme))
        = [(none, some "http")]) (by decide +kernel)
  obtain ⟨hcons, htransports⟩ := of_decide_eq_true hs
  obtain ⟨e, es, hes, he, hcons⟩ := List.map_eq_cons_iff.mp hcons
  obtain ⟨e', es, rfl, he', hcons⟩ := List.map_eq_cons_iff.mp hcons
  obtain rfl := List.map_eq_nil_iff.mp hcons
  simp only [Prod.mk.injEq] at he he'
  obtain ⟨htransport, htarget, hcreds⟩ := he
  obtain ⟨htransport', htarget', hcreds'⟩ := he'
  have hne : e.target ≠ e'.target := by
    rw [htarget, htarget']
    decide
  exact ⟨s, e, e', hrun, hes, ⟨0, htransport, htransport'⟩, hne, hcreds, hcreds',
    fun hsame ↦ hne hsame.1, htransports⟩

end GrpcPhp
