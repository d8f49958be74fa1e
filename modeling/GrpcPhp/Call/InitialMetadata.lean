import GrpcPhp.Call.Request

/-!
# Whether acknowledged metadata reaches the request

`OP_SEND_INITIAL_METADATA` is acknowledged by the batch that carries it, but the request
is often made by another one.  In between the metadata waits in the buffer, and the
routes disagree about the buffer: a send-only batch with a close overwrites it, a receive
batch with send operations ignores it, and a first write takes it even when it brings
metadata of its own.

`MetadataKept` lists what a batch must not do for the acknowledged metadata to survive.
Under it every request of the call carries, for each name, the last valid value of the
acknowledged list, unless a plugin pair overrides it.
-/

namespace GrpcPhp

open Lib Php

variable {T : Tonic} {env : Env}

/-! ## The property -/

/-- The request of `rpc` carries the metadata list `M`: under each name that `M` has a
valid value for it has the last one, or the last valid one of a plugin invocation. -/
def Rpc.Carries (T : Tonic) (invocations : List Pairs) (M : Pairs) (rpc : Rpc) : Prop :=
  ∀ name v, lastValue T M name = some v → rpc.metadata.values name = [v] ∨
    ∃ P ∈ invocations, ∃ v', lastValue T P name = some v' ∧ rpc.metadata.values name = [v']

/-- Every request carries every acknowledged metadata list. -/
def MetadataDelivered (T : Tonic) (w : World) : Prop :=
  ∀ M ∈ w.ackedMetadata, ∀ rpc ∈ w.rpcs, rpc.Carries T w.invocations M

/-- The empty list has nothing to carry. -/
theorem Rpc.carries_nil (I : List Pairs) (rpc : Rpc) : rpc.Carries T I [] :=
  fun name v h ↦ by simp [lastValue] at h

theorem Rpc.Carries.mono {I I' : List Pairs} {M : Pairs} {rpc : Rpc} (h : rpc.Carries T I M)
    (hI : I ⊆ I') : rpc.Carries T I' M := fun name v hv ↦
  (h name v hv).imp_right fun ⟨P, hP, v', hv', hval⟩ ↦ ⟨P, hI hP, v', hv', hval⟩

/-- A request built from `M`, then the pairs of at most two plugin invocations, carries
`M`: what comes after `M` can only override by a plugin pair. -/
theorem Rpc.carries_of_metadata {I : List Pairs} {M P ps : Pairs} {rpc : Rpc}
    (h : rpc.metadata = requestMetadata T (M ++ P) ps) (hP : P = [] ∨ P ∈ I)
    (hps : ps = [] ∨ ps ∈ I) : rpc.Carries T I M := by
  intro name v hv
  have hvals : rpc.metadata.values name
      = ((lastValue T ps name).or ((lastValue T P name).or (lastValue T M name))).toList := by
    rw [h, values_requestMetadata, lastValue, lastValue, Multimap.lastValid_append]
    rfl
  have overrides : ∀ Q : Pairs, Q = [] ∨ Q ∈ I → ∀ v', lastValue T Q name = some v' →
      rpc.metadata.values name = [v'] → ∃ P ∈ I, ∃ v', lastValue T P name = some v'
        ∧ rpc.metadata.values name = [v'] := by
    rintro Q (rfl | hQ) v' hv' hval
    · simp [lastValue] at hv'
    · exact ⟨Q, hQ, v', hv', hval⟩
  cases hlps : lastValue T ps name with
  | some v' => exact .inr (overrides ps hps v' hlps (by simp [hvals, hlps]))
  | none =>
      cases hlP : lastValue T P name with
      | some v' => exact .inr (overrides P hP v' hlP (by simp [hvals, hlps, hlP]))
      | none => exact .inl (by simp [hvals, hlps, hlP, hv])

/-! ## The condition -/

/-- What a batch that is admitted does not do to acknowledged metadata.

* Its array names the metadata operation at most once.
* It brings a non-empty list only before any RPC, and not as the first write of a stream,
  which takes the buffer in its place.
* Once a non-empty list has been acknowledged, a batch that makes a request takes the
  buffer, and finds it not yet taken. -/
def MetadataKept (w : World) : Action → Prop
  | .startBatch _ ops => ∀ b ∈ admitted w.call ops, (metadataOps ops).length ≤ 1 ∧
      (b.sendMetadata ≠ [] → w.rpcs = [] ∧
        (w.call.streamState = none → b.takesBuffer = true → b.sendMessage = none)) ∧
      (∀ M ∈ w.ackedMetadata, M ≠ [] → w.call.streamState = none → b.dispatches = true →
        b.takesBuffer = true ∧ w.call.pendingMetadata ≠ [])
  | _ => True

instance (w : World) (a : Action) : Decidable (MetadataKept w a) := match a with
  | .startBatch _ ops => inferInstanceAs (Decidable (∀ b ∈ admitted w.call ops, _))
  | .setCredentials _ | .cancel | .closeChannel => .isTrue trivial

/-! ## The invariant -/

/-- The acknowledged lists are in every request made so far, and a list that can still be
needed is at the front of the buffer. -/
structure MetadataInv (T : Tonic) (acked : List Pairs) (w : World) : Prop where
  delivered : ∀ M ∈ acked, ∀ rpc ∈ w.rpcs, rpc.Carries T w.invocations M
  sent : acked ≠ [] → w.call.initialMetadataSent = true
  buffer : w.call.pendingMetadata ≠ [] → w.call.initialMetadataSent = true
  held : ∀ M ∈ acked, M ≠ [] → w.call.pendingMetadata ≠ [] →
    ∃ P, w.call.pendingMetadata = M ++ P ∧ (P = [] ∨ P ∈ w.invocations)

/-- A batch with metadata that is admitted is the first one: nothing is acknowledged or
buffered yet. -/
theorem MetadataInv.first {ops : ZendHashTable} {b : BatchOps} {acked : List Pairs} {w : World}
    (hw : MetadataInv T acked w) (ha : Admitted w.call ops b)
    (hmd : b.hasSendInitialMetadata = true) : acked = [] ∧ w.call.pendingMetadata = [] := by
  have hfirst := ha.firstMetadata hmd
  constructor
  · by_contra h
    simp [hw.sent h] at hfirst
  · by_contra h
    simp [hw.buffer h] at hfirst

/-- A new request carries what was acknowledged before its batch. -/
theorem NewRpc.carries_old {ops : ZendHashTable} {b : BatchOps} {w w' : World} {rpc : Rpc}
    {ps M : Pairs} (hw : MetadataInv T w.ackedMetadata w) (ha : Admitted w.call ops b)
    (hk : MetadataKept w (.startBatch env ops)) (h : NewRpc T b (w.mapCall (·.accept b)) w' rpc ps)
    (hinv : w.invocations ⊆ w'.invocations) (hM : M ∈ w.ackedMetadata) :
    rpc.Carries T w'.invocations M := by
  by_cases hne : M = []
  · exact hne ▸ Rpc.carries_nil _ _
  · obtain ⟨htb, hpend⟩ := (hk b ha.mem_admitted).2.2 M hM hne (by simpa using h.noStream)
      h.dispatches
    obtain ⟨P, hP, hPI⟩ := hw.held M hM hne hpend
    have hsrc : b.source (w.mapCall (·.accept b)).call = M ++ P := by
      simp [BatchOps.source, htb, hP]
    exact Rpc.carries_of_metadata (hsrc ▸ h.metadata) (hPI.imp_right fun hI ↦ hinv hI)
      (h.plugin.symm.imp_left fun hp ↦ hp.1)

/-- A new request carries what its own batch brings. -/
theorem NewRpc.carries_own {ops : ZendHashTable} {b : BatchOps} {w w' : World} {rpc : Rpc}
    {ps : Pairs} (ha : Admitted w.call ops b) (hk : MetadataKept w (.startBatch env ops))
    (h : NewRpc T b (w.mapCall (·.accept b)) w' rpc ps) :
    rpc.Carries T w'.invocations b.sendMetadata := by
  by_cases hne : b.sendMetadata = []
  · exact hne ▸ Rpc.carries_nil _ _
  · have hmd : b.hasSendInitialMetadata = true := by
      by_contra hmd
      exact hne (ha.consistent.metadata (by simpa using hmd))
    have hsrc : b.source (w.mapCall (·.accept b)).call = b.sendMetadata ++ [] := by
      -- a batch that takes the buffer here would be the first write of a stream
      have htb : b.takesBuffer = false := by
        by_contra htb
        have htb : b.takesBuffer = true := by simpa using htb
        have hm := ((hk b ha.mem_admitted).2.1 hne).2 (by simpa using h.noStream) htb
        have hd := h.dispatches
        have hs := ha.consistent.send
        simp only [hmd, Bool.true_or] at hs
        cases hr : b.hasRecvOps <;> cases hc : b.sendClose <;>
          simp [BatchOps.takesBuffer, BatchOps.dispatches, hr, hc, hm, hs] at htb hd
      simp [BatchOps.source, htb]
    exact Rpc.carries_of_metadata (hsrc ▸ h.metadata) (.inl rfl)
      (h.plugin.symm.imp_left fun hp ↦ hp.1)

/-- A buffer that is not empty after a dispatch was not used, or holds the metadata of the
batch; then the batch returned with the plugin's pairs added, or the plugin failed. -/
theorem Pending.of_ne_nil {ops : ZendHashTable} {b : BatchOps} {c : GrpcCall} {w w' : World}
    {r : Except PhpException BatchResult} (h : Pending b w r w') (ha : Admitted c ops b)
    (hne : w'.call.pendingMetadata ≠ []) :
    w'.call.pendingMetadata = w.call.pendingMetadata ∨ b.hasSendInitialMetadata = true ∧
      ((∀ res, r ≠ .ok res) ∨ ∃ ps, w'.call.pendingMetadata = b.sendMetadata ++ ps
        ∧ (ps = [] ∨ ps ∈ w'.invocations)) := by
  cases h with
  | kept hp => exact .inl hp
  | taken hp => exact absurd hp hne
  | overwritten _ _ _ hr hp =>
      refine .inr ⟨?_, .inl hr⟩
      by_contra hmd
      exact hne (hp.trans (ha.consistent.metadata (by simpa using hmd)))
  | @buffered ps _ hrecv hclose hm hp hps =>
      -- a batch with neither message nor close nor receive operation has metadata
      have hops := ha.hasOps
      rw [ha.consistent.send] at hops
      simp only [hrecv, hclose, hm, Option.isSome_none, Bool.or_false] at hops
      exact .inr ⟨hops, .inr ⟨ps, hp, hps⟩⟩

section Dispatch

variable {ops : ZendHashTable} {b : BatchOps} {w w' : World}
  {r : Except PhpException BatchResult} {new : List Pairs}

/-- What a batch acknowledges: its own metadata list if it has one and returns, and
nothing otherwise. -/
def Acknowledges (b : BatchOps) (r : Except PhpException BatchResult) (new : List Pairs) : Prop :=
  ∀ M ∈ new, (∃ res, r = .ok res) ∧ b.hasSendInitialMetadata = true ∧ M = b.sendMetadata

/-- After a dispatch every request carries everything acknowledged. -/
theorem Dispatched.metadata_delivered (hw : MetadataInv T w.ackedMetadata w)
    (ha : Admitted w.call ops b) (hk : MetadataKept w (.startBatch env ops))
    (h : Dispatched T env b (w.mapCall (·.accept b)) r w') (hnew : Acknowledges b r new) :
    ∀ M ∈ w.ackedMetadata ++ new, ∀ rpc ∈ w'.rpcs, rpc.Carries T w'.invocations M := by
  have hinv : w.invocations ⊆ w'.invocations :=
    (h.updates.observe_isPrefix Event.invocations).subset
  intro M hM rpc hrpc
  have hrpc : rpc ∈ w.rpcs ∨ ∃ ps, NewRpc T b (w.mapCall (·.accept b)) w' rpc ps := by
    rcases h.newRpc with hr | ⟨rpc₁, ps, hr⟩
    · rw [hr] at hrpc
      exact .inl hrpc
    · rw [hr.rpcs, List.mem_append, List.mem_singleton] at hrpc
      rcases hrpc with hrpc | rfl
      · exact .inl hrpc
      · exact .inr ⟨ps, hr⟩
  rcases List.mem_append.mp hM with hM | hM
  · rcases hrpc with hrpc | ⟨ps, hrpc⟩
    · exact (hw.delivered M hM rpc hrpc).mono hinv
    · exact hrpc.carries_old hw ha hk hinv hM
  · obtain ⟨_, _, rfl⟩ := hnew M hM
    rcases hrpc with hrpc | ⟨ps, hrpc⟩
    · -- a list that has something to carry is brought before any RPC
      by_cases hnil : b.sendMetadata = []
      · exact hnil ▸ Rpc.carries_nil _ _
      · rw [((hk b ha.mem_admitted).2.1 hnil).1] at hrpc
        cases hrpc
    · exact hrpc.carries_own ha hk

/-- After a dispatch the buffer holds what can still be needed. -/
theorem Dispatched.metadata_held (hw : MetadataInv T w.ackedMetadata w)
    (ha : Admitted w.call ops b) (h : Dispatched T env b (w.mapCall (·.accept b)) r w')
    (hnew : Acknowledges b r new) :
    ∀ M ∈ w.ackedMetadata ++ new, M ≠ [] → w'.call.pendingMetadata ≠ [] →
      ∃ P, w'.call.pendingMetadata = M ++ P ∧ (P = [] ∨ P ∈ w'.invocations) := by
  have hinv : w.invocations ⊆ w'.invocations :=
    (h.updates.observe_isPrefix Event.invocations).subset
  intro M hM hne hpne
  rcases h.pending.of_ne_nil ha hpne with hp | ⟨hmd, hp⟩
  · have hp : w'.call.pendingMetadata = w.call.pendingMetadata := hp
    rcases List.mem_append.mp hM with hM | hM
    · obtain ⟨P, hP, hPI⟩ := hw.held M hM hne (hp ▸ hpne)
      exact ⟨P, hp.trans hP, hPI.imp_right fun hI ↦ hinv hI⟩
    · exact absurd (hp.trans (hw.first ha (hnew M hM).2.1).2) hpne
  · rcases List.mem_append.mp hM with hM | hM
    · rw [(hw.first ha hmd).1] at hM
      cases hM
    · obtain ⟨⟨res, hres⟩, _, rfl⟩ := hnew M hM
      rcases hp with hp | hp
      · exact absurd hres (hp res)
      · exact hp

/-- **A dispatch keeps the invariant.** -/
theorem Dispatched.metadataInv (hw : MetadataInv T w.ackedMetadata w)
    (ha : Admitted w.call ops b) (hk : MetadataKept w (.startBatch env ops))
    (h : Dispatched T env b (w.mapCall (·.accept b)) r w') (hnew : Acknowledges b r new) :
    MetadataInv T (w.ackedMetadata ++ new) w' := by
  have hsent : w'.call.initialMetadataSent
      = (w.call.initialMetadataSent || b.hasSendInitialMetadata) :=
    congrArg GrpcCall.initialMetadataSent h.updates.core_eq
  refine ⟨h.metadata_delivered hw ha hk hnew, fun hne ↦ ?_, fun hne ↦ ?_,
    h.metadata_held hw ha hnew⟩
  · rw [hsent]
    rcases List.eq_nil_or_concat new with rfl | ⟨_, M, rfl⟩
    · simp [hw.sent (by simpa using hne)]
    · simp [(hnew M (by simp)).2.1]
  · rw [hsent]
    rcases h.pending.of_ne_nil ha hne with hp | ⟨hmd, _⟩
    · simp [hw.buffer (by simpa [hp] using hne)]
    · simp [hmd]

end Dispatch

/-! ## Whole runs -/

/-- An array with at most one metadata operation acknowledges what it parses to. -/
theorem ParsedAs.acknowledges {ops : ZendHashTable} {b : BatchOps} {r : BatchResult}
    (h : ParsedAs ops b) (hone : (metadataOps ops).length ≤ 1) :
    Acknowledges b (.ok r) (if b.hasSendInitialMetadata then metadataOps ops else []) := by
  intro M hM
  rw [h.hasMetadata] at hM
  rw [h.metadata, h.hasMetadata]
  revert hM
  match metadataOps ops, hone with
  | [], _ => simp
  | [M'], _ => simp

/-- Only these parts of the world matter to the invariant. -/
theorem MetadataInv.congr {acked : List Pairs} {w w' : World} (h : MetadataInv T acked w)
    (hr : w'.rpcs = w.rpcs) (hi : w'.invocations = w.invocations)
    (hp : w'.call.pendingMetadata = w.call.pendingMetadata)
    (hs : w'.call.initialMetadataSent = w.call.initialMetadataSent) :
    MetadataInv T acked w' := by
  obtain ⟨h₁, h₂, h₃, h₄⟩ := h
  constructor <;> rw [hp] at * <;> rw [hs] at * <;> simp_all

/-- Every step that keeps the metadata keeps the invariant. -/
theorem step_metadataInv {w : World} {a : Action} (hw : MetadataInv T w.ackedMetadata w)
    (hk : MetadataKept w a) : MetadataInv T (step T w a).ackedMetadata (step T w a) := by
  cases a with
  | setCredentials plugin => exact hw.congr rfl rfl rfl rfl
  | cancel => exact hw.congr rfl rfl rfl rfl
  | closeChannel => exact hw.congr rfl rfl rfl rfl
  | startBatch env ops =>
      obtain ⟨r, w', hb, hstep⟩ := step_startBatch_cases T env ops w
      rw [hstep]
      cases hb with
      | @rejected e h =>
          have hacked : (w.emit (.raised e)).ackedMetadata = w.ackedMetadata := by simp
          rw [World.settle, hacked]
          exact hw.congr (by simp) (by simp) rfl rfl
      | empty h =>
          have hacked : (w.emit (.returned ops {})).ackedMetadata = w.ackedMetadata := by simp
          rw [World.settle, hacked]
          exact hw.congr (by simp) (by simp) rfl rfl
      | @raised b e w' ha hd =>
          have hinv : MetadataInv T (w.ackedMetadata ++ []) w' :=
            hd.metadataInv hw ha hk (by simp [Acknowledges])
          have hacked : (w'.emit (.raised e)).ackedMetadata = w.ackedMetadata ++ [] := by
            have := hd.updates.ackedMetadata_eq
            simpa using this
          rw [World.settle, hacked]
          exact hinv.congr (by simp) (by simp) rfl rfl
      | @returned b r w' ha hd =>
          have hinv := hd.metadataInv hw ha hk
            ((parseOps_parsedAs ha.parsed).acknowledges (hk b ha.mem_admitted).1)
          have hacked : ((w'.mapCall (·.finish b)).emit (.returned ops (r.ack b))).ackedMetadata
              = w.ackedMetadata ++ if b.hasSendInitialMetadata then metadataOps ops else [] := by
            have := hd.updates.ackedMetadata_eq
            simp [this, BatchResult.ack]
          rw [World.settle, hacked]
          exact hinv.congr (by simp) (by simp) rfl rfl

end GrpcPhp
