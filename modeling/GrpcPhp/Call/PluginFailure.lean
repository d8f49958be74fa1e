import GrpcPhp.Call.Compute
import GrpcPhp.Call.Rejected

/-!
# When the credentials plugin fails

A batch that sends while no stream is active invokes the plugin in the middle of its
dispatch, at one of three places.  By then the flags for the operations seen are set, and
on two of the three paths the buffers have been taken or overwritten.  `pluginFailed` is
what the call looks like when the invocation fails, on each path.

A failed plugin is meant to fail the call: no RPC is made, and the operations of the batch
count as seen.  `pluginFailure_spec` states this, and for which batches the same batch can be
issued again on the same call.
-/

namespace GrpcPhp

open Lib Php

variable {T : Tonic} {env : Env}

/-! ## The three places -/

/-- The batch gets to a plugin stage. -/
def InvokesPlugin (c : GrpcCall) (b : BatchOps) : Prop :=
  c.streamState = none ∧ b.hasSendOps = true

/-- The plugin of the call fails. -/
def PluginFails (env : Env) (c : GrpcCall) (e : GrpcError) : Prop :=
  ∃ p, c.callPlugin = some p ∧ (env.plugin p c.method).pairs = .error e

/-- A send-only batch that opens a stream of its own: a message without the close. -/
def BatchOps.opensStream (b : BatchOps) : Bool := !b.sendClose && b.sendMessage.isSome

/-- The call after a batch whose plugin failed. -/
def GrpcCall.pluginFailed (c : GrpcCall) (b : BatchOps) : GrpcCall :=
  if b.hasRecvOps then c.accept b
  else if b.opensStream then { c.accept b with pendingMetadata := [] }
  else { c.accept b with pendingMetadata := b.sendMetadata, pendingMessage := b.sendMessage }

section Fails

variable {b : BatchOps} {w : World} {e : GrpcError}

theorem PluginFails.pluginMetadata_eq (h : PluginFails env w.call e) :
    pluginMetadata env w = (.error e.toPhp, w) := by
  obtain ⟨p, hp, he⟩ := h
  exact (PluginRan.failed hp he).pluginMetadata_eq

/-- What each of the three places leaves. -/
theorem dispatchBatch_pluginFails (h : PluginFails env w.call e) (hst : w.call.streamState = none)
    (hsend : b.hasSendOps = true) : dispatchBatch T env b w =
      (.error e.toPhp, if b.hasRecvOps then w else if b.opensStream then w.takePendingMetadata
        else w.buffer b) := by
  cases hrecv : b.hasRecvOps with
  | true =>
      rw [dispatchBatch_fresh hst hrecv, dispatchFresh, if_pos hsend]
      exact Fallible.bind_error h.pluginMetadata_eq
  | false =>
      have hwrite : PluginFails env w.takePendingMetadata.call e := h
      have hbuffer : PluginFails env (w.buffer b).call e := h
      cases hopen : b.opensStream with
      | true =>
          rw [BatchOps.opensStream, Bool.and_eq_true] at hopen
          obtain ⟨m, hm⟩ := Option.isSome_iff_exists.mp hopen.2
          rw [dispatchBatch_startWrite hst hrecv hsend (by simpa using hopen.1) hm, startWrite,
            Fallible.bind_ok (Fallible.gets_apply _ _),
            Fallible.bind_ok (Fallible.modify_apply _ _)]
          exact Fallible.bind_error hwrite.pluginMetadata_eq
      | false =>
          have hclose : b.sendClose = true ∨ b.sendMessage = none := by
            cases hc : b.sendClose with
            | true => exact .inl rfl
            | false => exact .inr (by simpa [BatchOps.opensStream, hc] using hopen)
          rw [dispatchBatch_bufferSend hst hrecv hsend hclose, bufferSend,
            Fallible.bind_ok (Fallible.modify_apply _ _)]
          exact Fallible.bind_error hbuffer.pluginMetadata_eq

/-- **A batch whose plugin fails** throws, and leaves the call as `pluginFailed` says and the
rest of the world as it was. -/
theorem startBatch_pluginFails {ops : ZendHashTable} (ha : Admitted w.call ops b)
    (hi : InvokesPlugin w.call b) (h : PluginFails env w.call e) :
    startBatch T env ops w = (.error e.toPhp, w.mapCall (·.pluginFailed b)) := by
  have hacc : PluginFails env (w.mapCall (·.accept b)).call e := h
  rw [← startBatchVia_dispatchBatch, startBatchVia_admitted ha, dispatchAdmitted,
    Fallible.bind_ok (Fallible.modify_apply _ _),
    Fallible.bind_error (dispatchBatch_pluginFails hacc hi.1 hi.2)]
  unfold GrpcCall.pluginFailed
  cases b.hasRecvOps <;> cases b.opensStream <;> rfl

end Fails

/-! ## Issuing the batch again -/

section Retry

variable {ops : ZendHashTable} {b : BatchOps} {w : World}

/-- The flags of a batch are set once. -/
theorem GrpcCall.accept_accept (c : GrpcCall) (b : BatchOps) :
    (c.accept b).accept b = c.accept b := by
  simp [GrpcCall.accept]

/-- A batch is admitted on a call that has its flags set already, unless it has
`OP_SEND_INITIAL_METADATA`. -/
theorem Admitted.accept (ha : Admitted w.call ops b) (hmd : b.hasSendInitialMetadata = false) :
    Admitted (w.call.accept b) ops b :=
  ⟨ha.parsed, ha.hasOps, ha.channelOpen, ha.notCancelled, ha.notFinished,
    fun h ↦ by simp [hmd] at h⟩

/-- Such a batch does not see whether its flags were set before. -/
theorem startBatch_accept (T : Tonic) (env : Env) (ha : Admitted w.call ops b)
    (hmd : b.hasSendInitialMetadata = false) :
    startBatch T env ops (w.mapCall (·.accept b)) = startBatch T env ops w := by
  have ha' : Admitted (w.mapCall (·.accept b)).call ops b := ha.accept hmd
  rw [← startBatchVia_dispatchBatch, startBatchVia_admitted ha, startBatchVia_admitted ha',
    dispatchAdmitted, Fallible.bind_ok (Fallible.modify_apply _ _),
    Fallible.bind_ok (Fallible.modify_apply _ _)]
  simp only [World.mapCall, GrpcCall.accept_accept]

/-- A batch that buffers does not see what was buffered before. -/
theorem startBatch_buffered (T : Tonic) (env : Env) (ha : Admitted w.call ops b)
    (hst : w.call.streamState = none) (hsend : b.hasSendOps = true) (hrecv : b.hasRecvOps = false)
    (hopen : b.opensStream = false) :
    startBatch T env ops (w.buffer b) = startBatch T env ops w := by
  have hclose : b.sendClose = true ∨ b.sendMessage = none := by
    cases hc : b.sendClose with
    | true => exact .inl rfl
    | false => exact .inr (by simpa [BatchOps.opensStream, hc] using hopen)
  have ha' : Admitted (w.buffer b).call ops b :=
    ⟨ha.parsed, ha.hasOps, ha.channelOpen, ha.notCancelled, ha.notFinished, ha.firstMetadata⟩
  rw [← startBatchVia_dispatchBatch, startBatchVia_admitted ha, startBatchVia_admitted ha',
    dispatchAdmitted, Fallible.bind_ok (Fallible.modify_apply _ _),
    Fallible.bind_ok (Fallible.modify_apply _ _), Fallible.bind_apply, Fallible.bind_apply,
    dispatchBatch_bufferSend (w := w.mapCall (·.accept b)) hst hrecv hsend hclose,
    dispatchBatch_bufferSend (w := (w.buffer b).mapCall (·.accept b)) hst hrecv hsend hclose]
  -- both start by overwriting the buffers
  rfl

/-- The batch has no `OP_SEND_INITIAL_METADATA`, and does not open a stream with metadata that
is still buffered. -/
structure Retryable (c : GrpcCall) (b : BatchOps) : Prop where
  metadata : b.hasSendInitialMetadata = false
  pending : b.hasRecvOps = false → b.opensStream = true → c.pendingMetadata = []

/-- Such metadata does not survive the failure. -/
example :
    let w := step Tonic.ascii (World.fresh "/s/m" I64.max (some ⟨0⟩) .idle)
      (.startBatch .calm [metadataOp [("a", [98])]])
    let w' := step Tonic.ascii w (.startBatch
      { Env.calm with plugin := fun _ _ ↦ .threw "Exception" "no token" } [messageOp [1]])
    let metadata (w : World) :=
      (step Tonic.ascii w (.startBatch .calm [messageOp [1]])).rpcs.map Rpc.metadata
    metadata w = [[("a", [98])]] ∧ metadata w' = [[]] := by decide

theorem Retryable.startBatch_eq (h : Retryable w.call b) (T : Tonic) (env : Env)
    (ha : Admitted w.call ops b) (hi : InvokesPlugin w.call b) :
    startBatch T env ops (w.mapCall (·.pluginFailed b)) = startBatch T env ops w := by
  rw [← startBatch_accept T env ha h.metadata]
  cases hrecv : b.hasRecvOps with
  | true =>
      have hw : w.mapCall (·.pluginFailed b) = w.mapCall (·.accept b) := by
        simp [World.mapCall, GrpcCall.pluginFailed, hrecv]
      rw [hw]
  | false =>
      cases hopen : b.opensStream with
      | true =>
          have hw : w.mapCall (·.pluginFailed b) = w.mapCall (·.accept b) := by
            have hp := h.pending hrecv hopen
            simp [World.mapCall, GrpcCall.pluginFailed, hrecv, hopen, GrpcCall.accept, ← hp]
          rw [hw]
      | false =>
          have hw : w.mapCall (·.pluginFailed b) = (w.mapCall (·.accept b)).buffer b := by
            simp [World.mapCall, World.buffer, GrpcCall.pluginFailed, hrecv, hopen]
          rw [hw]
          exact startBatch_buffered T env (ha.accept h.metadata) hi.1 hi.2 hrecv hopen

end Retry

/-- A failed plugin changes the flags and the buffers. -/
theorem GrpcCall.pluginFailed_eq (c : GrpcCall) (b : BatchOps) : ∃ md msg, c.pluginFailed b =
    { c.accept b with pendingMetadata := md, pendingMessage := msg } := by
  unfold GrpcCall.pluginFailed
  split
  · exact ⟨_, _, rfl⟩
  · split <;> exact ⟨_, _, rfl⟩

/-- **What a failing plugin leaves behind.**  The batch throws and no RPC is made.  The call is
not finished by it and gets no stream; its flags record the operations of the batch as seen,
so that a second `OP_SEND_INITIAL_METADATA` is a sequencing error; and a batch that receives
leaves the buffers alone.  A batch without `OP_SEND_INITIAL_METADATA` can be issued again, unless
it opens a stream with metadata still buffered: once the plugin works it does what it would have
done. -/
theorem pluginFailure_spec {ops : ZendHashTable} {b : BatchOps} {w : World} {e : GrpcError}
    (ha : Admitted w.call ops b) (hi : InvokesPlugin w.call b) (h : PluginFails env w.call e) :
    ∃ w', startBatch T env ops w = (.error e.toPhp, w') ∧ w'.log = w.log ∧
      w'.connectivity = w.connectivity ∧ w'.call.finished = w.call.finished ∧
      w'.call.streamState = w.call.streamState ∧
      w'.call.initialMetadataSent = (w.call.initialMetadataSent || b.hasSendInitialMetadata) ∧
      w'.call.sendClosed = (w.call.sendClosed || b.sendClose) ∧
      (b.hasRecvOps = true → w'.call.pendingMetadata = w.call.pendingMetadata ∧
        w'.call.pendingMessage = w.call.pendingMessage) ∧
      (b.hasSendInitialMetadata = true → ∀ env',
        startBatch T env' ops w' = (.error tooManyOperations, w')) ∧
      (Retryable w.call b → ∀ env', startBatch T env' ops w' = startBatch T env' ops w) := by
  obtain ⟨md, msg, heq⟩ := w.call.pluginFailed_eq b
  refine ⟨_, startBatch_pluginFails ha hi h, rfl, rfl, ?_, ?_, ?_, ?_, ?_, ?_, ?_⟩
  · simp [heq, GrpcCall.accept]
  · simp [heq]
  · simp [heq, GrpcCall.accept]
  · simp [heq]
  · intro hrecv
    simp [GrpcCall.pluginFailed, hrecv]
  · intro hmd env'
    have hrej : Rejection (w.call.pluginFailed b) ops tooManyOperations := by
      refine .secondMetadata ?_ ?_ ha.parsed ha.hasOps ?_ hmd ?_
      · simpa [heq, GrpcCall.accept] using ha.channelOpen
      · simpa [heq, GrpcCall.accept] using ha.notCancelled
      · simpa [heq, GrpcCall.accept] using ha.notFinished
      · simp [heq, GrpcCall.accept, hmd]
    rw [← startBatchVia_dispatchBatch]
    exact startBatchVia_rejected hrej
  · intro hr env'
    exact hr.startBatch_eq T env' ha hi

/-- An environment in which the plugin throws. -/
def Env.throwing : Env := { Env.calm with plugin := fun _ _ ↦ .threw "Exception" "no token" }

/-- A first write on a call that has buffered nothing: the plugin throws, and once it works
again the same batch opens the stream. -/
theorem pluginFailure_spec_write :
    ∃ w', startBatch Tonic.ascii .throwing [messageOp [1]]
        (World.fresh "/s/m" I64.max (some ⟨0⟩) .idle) = (.error (GrpcError.callbackFailed
          "plugin threw Exception: no token").toPhp, w') ∧ w'.log = [] ∧
      ∀ env', startBatch Tonic.ascii env' [messageOp [1]] w'
        = startBatch Tonic.ascii env' [messageOp [1]]
          (World.fresh "/s/m" I64.max (some ⟨0⟩) .idle) := by
  have ha : Admitted (World.fresh "/s/m" I64.max (some ⟨0⟩) .idle).call [messageOp [1]]
      (.write [1]) := ⟨rfl, rfl, rfl, rfl, rfl, fun h ↦ by cases h⟩
  have hfail : PluginFails .throwing (World.fresh "/s/m" I64.max (some ⟨0⟩) .idle).call
      (.callbackFailed "plugin threw Exception: no token") := ⟨⟨0⟩, rfl, rfl⟩
  obtain ⟨w', hw', hlog, -, -, -, -, -, -, -, hretry⟩ :=
    pluginFailure_spec (T := Tonic.ascii) ha ⟨rfl, rfl⟩ hfail
  exact ⟨w', hw', hlog, hretry ⟨rfl, fun _ _ ↦ rfl⟩⟩

/-- A whole unary batch whose plugin throws: its metadata counts as sent, and the same batch
is then rejected. -/
theorem pluginFailure_not_retryable :
    ∃ w', startBatch Tonic.ascii .throwing [metadataOp [], messageOp [1],
          Op.sendCloseFromClient.flag, Op.recvMessage.flag, Op.recvStatusOnClient.flag]
        (World.fresh "/s/m" I64.max (some ⟨0⟩) .idle) = (.error (GrpcError.callbackFailed
          "plugin threw Exception: no token").toPhp, w') ∧
      w'.call ≠ (World.fresh "/s/m" I64.max (some ⟨0⟩) .idle).call ∧
      (startBatch Tonic.ascii .calm [metadataOp [], messageOp [1], Op.sendCloseFromClient.flag,
        Op.recvMessage.flag, Op.recvStatusOnClient.flag] w').1 = .error tooManyOperations ∧
      ∃ r, (startBatch Tonic.ascii .calm [metadataOp [], messageOp [1], Op.sendCloseFromClient.flag,
        Op.recvMessage.flag, Op.recvStatusOnClient.flag]
          (World.fresh "/s/m" I64.max (some ⟨0⟩) .idle)).1 = .ok r :=
  ⟨_, rfl, by decide, rfl, _, rfl⟩

end GrpcPhp
