import GrpcPhp.Call.Request

/-!
# Whether every request is credentialed

A call with a credentials plugin is meant to invoke it for every RPC.  The code invokes
it where a batch brings send operations.  A receive batch without send operations relies
on an earlier batch: it takes whatever the buffer holds, and invokes nothing.

`Covered` is the condition that such a batch finds the pairs of an invocation in the
buffer, as it does when the last batch that was admitted brought metadata alone, and returned
(`covered_of_metadata`).
Under it every request of the call ends with the pairs of some invocation.  A receive-only
batch as the first one of the call is the run that breaks it.
-/

namespace GrpcPhp

open Lib Php

variable {T : Tonic} {env : Env}

/-- Every request was built with the pairs of an invocation of the plugin, which were
added last. -/
def Credentialed (T : Tonic) (w : World) : Prop :=
  ∀ rpc ∈ w.rpcs, ∃ P ∈ w.invocations, ∃ M, rpc.metadata = requestMetadata T M P

/-- A receive-only batch that finds no active stream finds the pairs of an invocation at
the end of the buffer. -/
def Covered (w : World) : Action → Prop
  | .startBatch _ ops => ∀ b ∈ admitted w.call ops, w.call.streamState = none →
      b.hasRecvOps = true → b.hasSendOps = false →
        ∃ P ∈ w.invocations, P <:+ w.call.pendingMetadata
  | _ => True

instance (w : World) (a : Action) : Decidable (Covered w a) := match a with
  | .startBatch _ ops => inferInstanceAs (Decidable (∀ b ∈ admitted w.call ops, _))
  | .setCredentials _ | .cancel | .closeChannel => .isTrue trivial

/-- The invariant: the call has a plugin and its requests are credentialed. -/
structure CredentialedInv (T : Tonic) (w : World) : Prop where
  plugin : w.call.callPlugin ≠ none
  credentialed : Credentialed T w

/-- A new request of a covered batch is built with the pairs of an invocation. -/
theorem NewRpc.credentialed {ops : ZendHashTable} {b : BatchOps} {w w' : World} {rpc : Rpc}
    {ps : Pairs} (hplugin : w.call.callPlugin ≠ none) (ha : Admitted w.call ops b)
    (hc : Covered w (.startBatch env ops)) (h : NewRpc T b (w.mapCall (·.accept b)) w' rpc ps)
    (hinv : w.invocations ⊆ w'.invocations) :
    ∃ P ∈ w'.invocations, ∃ M, rpc.metadata = requestMetadata T M P := by
  rcases h.plugin with hps | ⟨rfl, hsend | hnone⟩
  · exact ⟨ps, hps, _, h.metadata⟩
  · -- no send operation: the request is what the buffer holds
    have hrecv : b.hasRecvOps = true := by simpa [hsend] using ha.hasOps
    obtain ⟨P, hP, M, hM⟩ := hc b ha.mem_admitted (by simpa using h.noStream) hrecv hsend
    have hsrc : b.source (w.mapCall (·.accept b)).call = M ++ P := by
      simp [BatchOps.source, BatchOps.takesBuffer, hrecv, hsend, hM]
    refine ⟨P, hinv hP, M, ?_⟩
    rw [h.metadata, hsrc, requestMetadata_eq, requestMetadata_eq, List.append_nil]
  · exact absurd hnone hplugin

/-- A dispatch of a covered batch keeps the invariant. -/
theorem Dispatched.credentialedInv {ops : ZendHashTable} {b : BatchOps} {w w' : World}
    {r : Except PhpException BatchResult} (hw : CredentialedInv T w) (ha : Admitted w.call ops b)
    (hc : Covered w (.startBatch env ops))
    (h : Dispatched T env b (w.mapCall (·.accept b)) r w') : CredentialedInv T w' := by
  have hinv : w.invocations ⊆ w'.invocations :=
    (h.updates.observe_isPrefix Event.invocations).subset
  have hplugin : w'.call.core.callPlugin = w.call.callPlugin := by rw [h.updates.core_eq]; rfl
  have hold : ∀ rpc ∈ w.rpcs, ∃ P ∈ w'.invocations, ∃ M, rpc.metadata = requestMetadata T M P := by
    intro rpc hrpc
    obtain ⟨P, hP, hM⟩ := hw.credentialed rpc hrpc
    exact ⟨P, hinv hP, hM⟩
  refine ⟨fun hnone ↦ hw.plugin (hplugin.symm.trans hnone), fun rpc hrpc ↦ ?_⟩
  rcases h.newRpc with hr | ⟨rpc₁, ps, hr⟩
  · rw [hr] at hrpc
    exact hold rpc hrpc
  · rw [hr.rpcs, List.mem_append, List.mem_singleton] at hrpc
    rcases hrpc with hrpc | rfl
    · exact hold rpc hrpc
    · exact hr.credentialed hw.plugin ha hc hinv

/-- How a batch ended does not matter to the invariant. -/
theorem CredentialedInv.settle {w : World} (h : CredentialedInv T w) (ops : ZendHashTable)
    (r : Except PhpException BatchResult) : CredentialedInv T (World.settle ops (r, w)) := by
  cases r with
  | error e => exact ⟨h.plugin, by simpa [Credentialed, World.settle] using h.credentialed⟩
  | ok res => exact ⟨h.plugin, by simpa [Credentialed, World.settle] using h.credentialed⟩

/-- Every covered step keeps the invariant. -/
theorem step_credentialedInv {w : World} {a : Action} (hw : CredentialedInv T w)
    (hc : Covered w a) : CredentialedInv T (step T w a) := by
  cases a with
  | setCredentials plugin => exact ⟨by simp [step], hw.credentialed⟩
  | cancel => exact ⟨hw.plugin, hw.credentialed⟩
  | closeChannel => exact ⟨hw.plugin, hw.credentialed⟩
  | startBatch env ops =>
      obtain ⟨r, w', hb, hstep⟩ := step_startBatch_cases T env ops w
      rw [hstep]
      cases hb with
      | rejected => exact hw.settle ops _
      | empty => exact hw.settle ops _
      | raised ha hd => exact (hd.credentialedInv hw ha hc).settle ops _
      | @returned b r w' ha hd =>
          have h := hd.credentialedInv hw ha hc
          have hfin : CredentialedInv T (w'.mapCall (·.finish b)) := ⟨h.plugin, h.credentialed⟩
          exact hfin.settle ops _

/-- **Every request of a call with a plugin is credentialed**, in every run of covered
batches. -/
theorem credentialed_of_run {method : String} {d : I64} {p : PluginRef} {cs : ChannelState}
    {acts : List Action} {w : World}
    (h : Run (Such (graph (step T)) Covered) (World.fresh method d (some p) cs) acts w) :
    Credentialed T w := by
  have hinit : CredentialedInv T (World.fresh method d (some p) cs) :=
    ⟨by simp [World.fresh], fun rpc hrpc ↦ absurd hrpc List.not_mem_nil⟩
  refine (h.state_invariant hinit ?_).credentialed
  rintro t a u ht ⟨hc, rfl⟩
  exact step_credentialedInv ht hc

/-! ## What covers a batch -/

/-- The buffer ends with the pairs of an invocation. -/
def Buffered (w : World) : Prop := ∃ P ∈ w.invocations, P <:+ w.call.pendingMetadata

theorem Buffered.covered {w : World} (h : Buffered w) (a : Action) : Covered w a := by
  cases a with
  | startBatch => exact fun _ _ _ _ _ ↦ h
  | setCredentials | cancel | closeChannel => trivial

/-- They are left there by a batch that brings metadata alone to a call without a stream, where
the plugin did not fail. -/
theorem buffered_of_metadata {ops : ZendHashTable} {b : BatchOps} {r : BatchResult} {w w' : World}
    (hplugin : w.call.callPlugin ≠ none) (hst : w.call.streamState = none)
    (hb : Admitted w.call ops b) (hrecv : b.hasRecvOps = false) (hclose : b.sendClose = false)
    (hm : b.sendMessage = none) (h : startBatch T env ops w = (.ok r, w')) : Buffered w' := by
  cases startBatch_batched h with
  | empty he => simp [hb.admission_eq] at he
  | @returned b' r' w₁ hb' hd =>
      obtain rfl : b' = b := Except.ok.inj (hb'.parsed.symm.trans hb.parsed)
      generalize hres : Except.ok r' = res at hd
      cases hd with
      | @buffered ps w₂ _ _ _ _ hp =>
          cases hp with
          | absent hnone => exact absurd hnone hplugin
          | invoked => exact ⟨ps, by simp [World.extendPending], List.suffix_append _ _⟩
      | bufferPluginFailed => cases hres
      | split _ _ hclose' => cases hclose.symm.trans hclose'
      | notForwarded hst' | forwarded hst' | read hst' | notRead hst' =>
          cases hst.symm.trans hst'
      | writePluginFailed _ _ _ hm' | writeNotStarted _ _ _ hm' | write _ _ _ hm' =>
          cases hm.symm.trans hm'
      | freshPluginFailed _ hrecv' | unary _ hrecv' | serverNotStarted _ hrecv'
      | server _ hrecv' => cases hrecv.symm.trans hrecv'

/-- What a batch settles to is logged, and leaves the buffer. -/
theorem Buffered.settle {w : World} (h : Buffered w) (ops : ZendHashTable)
    (r : Except PhpException BatchResult) : Buffered (World.settle ops (r, w)) := by
  obtain ⟨P, hP, hsuffix⟩ := h
  cases r <;> exact ⟨P, by simpa [World.settle] using hP, hsuffix⟩

/-- They stay there until a batch is admitted. -/
theorem Buffered.step {w : World} (h : Buffered w) {a : Action}
    (ha : ∀ env ops, a = .startBatch env ops → admitted w.call ops = none) :
    Buffered (step T w a) := by
  cases a with
  | startBatch env ops =>
      obtain ⟨⟨r, w'⟩, hs⟩ : ∃ p, startBatch T env ops w = p := ⟨_, rfl⟩
      have hleft : w' = w := by
        cases startBatch_batched hs with
        | rejected | empty => rfl
        | raised hb | returned hb => cases (ha env ops rfl).symm.trans hb.mem_admitted
      rw [GrpcPhp.step, hs, hleft]
      exact h.settle ops r
  | setCredentials | cancel | closeChannel => exact h

/-- **What covers a batch, by the history of the call**: an earlier one brought metadata alone, to
a call without a stream, and returned; and none has been admitted since. -/
theorem covered_of_metadata {ops : ZendHashTable} {b : BatchOps} {r : BatchResult} {w w' u : World}
    {acts : List Action} (hplugin : w.call.callPlugin ≠ none) (hst : w.call.streamState = none)
    (hb : Admitted w.call ops b) (hrecv : b.hasRecvOps = false) (hclose : b.sendClose = false)
    (hm : b.sendMessage = none) (h : startBatch T env ops w = (.ok r, w'))
    (h' : Run (Such (graph (step T)) fun w a ↦
      ∀ env ops, a = .startBatch env ops → admitted w.call ops = none)
        (step T w (.startBatch env ops)) acts u) (a : Action) : Covered u a := by
  have hstart : Buffered (step T w (.startBatch env ops)) := by
    rw [step, h]
    exact (buffered_of_metadata hplugin hst hb hrecv hclose hm h).settle ops _
  refine Buffered.covered (h'.state_invariant (I := Buffered) hstart ?_) a
  rintro t a u ht ⟨ha, rfl⟩
  exact ht.step ha

/-- An environment whose plugin returns one token. -/
def Env.withToken : Env :=
  { Env.calm with plugin _ _ := .returned (.array [(.str "authorization", .string [116])]) }

/-- Metadata in one batch, the receive operations in the next: the request has the token
from the buffer. -/
theorem credentialed_of_run_buffered :
    ∃ w, (w.rpcs.map fun rpc ↦ rpc.metadata) = [[("authorization", [116])]]
      ∧ w.invocations = [[("authorization", "t")]] ∧ Credentialed Tonic.ascii w ∧
      Run (Such (graph (step Tonic.ascii)) Covered) (World.fresh "/s/m" I64.max (some ⟨0⟩) .idle)
        [.startBatch .withToken [metadataOp []],
          .startBatch .withToken [Op.recvMessage.flag, Op.recvStatusOnClient.flag]] w :=
  have h := Run.of_along (by decide)
  ⟨_, by decide, by decide, credentialed_of_run h, h⟩

/-- A receive-only batch as the first batch of a call makes an RPC and never invokes the
plugin. -/
theorem receiveOnly_not_credentialed :
    ∃ w, Run (graph (step Tonic.ascii)) (World.fresh "/s/m" I64.max (some ⟨0⟩) .idle)
        [.startBatch .withToken [Op.recvMessage.flag, Op.recvStatusOnClient.flag]] w ∧
      w.invocations = [] ∧ w.rpcs.length = 1 ∧ ¬ Credentialed Tonic.ascii w := by
  refine ⟨_, Run.of_graph _ _ _, by decide, by decide, fun h ↦ ?_⟩
  obtain ⟨P, hP, _⟩ := h (.unary ⟨[], [], none⟩) (by decide)
  exact absurd hP List.not_mem_nil

end GrpcPhp
