import GrpcPhp.Call.Lifecycle
import GrpcPhp.Call.Rejected

/-!
# The status is delivered once

The trailers of a stream wait in one of two places, `cached_trailers` or the receiver
`trailers_rx`, and `build_stream_result` has a fallback for the case that both are empty.
The fallback is dead, and so is the one for a call without a stream: a stream is installed
with one of the two, reading an error only fills the first, and what takes the status also
ends the call.

To say that a branch is dead, `dispatchBatchWith` routes a batch with `build_stream_result`
as a parameter.  `status_once_of_run` states among other things that whatever the method
would do where the fallbacks stand makes no difference, from no reachable state and for no
batch.
-/

namespace GrpcPhp

open Lib Php

variable {T : Tonic} {env : Env}

/-! ## Where the status waits -/

/-- There is a status to deliver: it is cached, or the receiver for it is held. -/
def ActiveStream.HasStatus (st : ActiveStream) : Prop :=
  st.cachedTrailers.isSome = true ∨ st.trailersRx = true

/-- The stream as `RECV_STATUS_ON_CLIENT` finds it, after the headers and the message. -/
def beforeStatus (T : Tonic) (env : Env) (d : I64) (b : BatchOps) (st : ActiveStream) :
    ActiveStream :=
  (messageStage T d env.nowStatus env.item b (headersStage T env.headers b ({}, st))).2

/-- Reading a message takes no status. -/
theorem messageStage_isSome {d now : I64} {item : Option Item} {b : BatchOps}
    {p : BatchResult × ActiveStream} (h : p.2.cachedTrailers.isSome = true) :
    (messageStage T d now item b p).2.cachedTrailers.isSome = true := by
  unfold messageStage ActiveStream.recvMessage
  split
  · simp [h]
  · exact h

/-- Neither the headers nor the message take the status. -/
theorem ActiveStream.HasStatus.beforeStatus {st : ActiveStream} (h : st.HasStatus) (d : I64)
    (b : BatchOps) : (beforeStatus T env d b st).HasStatus := by
  rcases h with h | h
  · exact .inl (messageStage_isSome (by simpa using h))
  · exact .inr (by simpa [GrpcPhp.beforeStatus] using h)

/-- A batch that does not ask for the status leaves it. -/
theorem ActiveStream.HasStatus.streamResult {st : ActiveStream} (h : st.HasStatus) (d : I64)
    {b : BatchOps} (hb : b.recvStatus = false) : (streamResult T env d b st).2.HasStatus := by
  have hst : (GrpcPhp.streamResult T env d b st).2 = GrpcPhp.beforeStatus T env d b st := by
    simp [GrpcPhp.streamResult, GrpcPhp.beforeStatus, statusStage, hb]
  rw [hst]
  exact h.beforeStatus d b

theorem ActiveStream.HasStatus.exchange {st : ActiveStream} (h : st.HasStatus) (d : I64)
    {b : BatchOps} (hb : b.recvStatus = false) : (exchange T env d b st).2.HasStatus := by
  have hdrop : { st with msgTx := st.msgTx && !b.sendClose }.HasStatus := h
  unfold GrpcPhp.exchange
  split
  · exact hdrop.streamResult d hb
  · exact hdrop

/-- The stream of a call, if it has one, has a status. -/
def GrpcCall.HasStatus (c : GrpcCall) : Prop := ∀ st, c.streamState = some st → st.HasStatus

theorem GrpcCall.HasStatus.congr {c c' : GrpcCall} (h : c.HasStatus)
    (heq : c'.streamState = c.streamState) : c'.HasStatus := fun st hst ↦ h st (heq ▸ hst)

/-- A stream is installed with a status to come. -/
theorem Started.hasStatus {bidi : Bool} {rpc : I64 → Rpc} {w w' : World}
    {r : Except PhpException Unit} (h : Started T env bidi rpc w r w') (hw : w.call.HasStatus) :
    w'.call.HasStatus := by
  cases h with
  | noRuntime => exact hw
  | expired =>
      intro st hst
      cases hst
      exact .inl rfl
  | badPath => exact hw
  | spawned =>
      intro st hst
      cases hst
      exact .inr rfl

/-- Neither the plugin stage nor a unary call touches the stream. -/
theorem PluginRan.streamState_eq {w w' : World} {r : Except PhpException Pairs}
    (h : PluginRan env w r w') : w'.call.streamState = w.call.streamState := by
  rw [h.call_eq]

theorem Executed.streamState_eq {md ps : Pairs} {msg : Option Bytes} {w w' : World}
    {r : Except PhpException CallResult} (h : Executed T env md ps msg w r w') :
    w'.call.streamState = w.call.streamState := by
  cases h with
  | noRuntime => rfl
  | expired => rfl
  | badPath => simp
  | raced =>
      rw [World.recordOutcome_call]
      cases env.unary <;> rfl

/-- **A dispatch keeps the status**, unless it delivers it. -/
theorem Dispatched.hasStatus {b : BatchOps} {w w' : World} {r : Except PhpException BatchResult}
    (h : Dispatched T env b w r w') (hw : w.call.HasStatus) :
    w'.call.HasStatus ∨ (∃ res, r = .ok res) ∧ b.recvStatus = true := by
  -- receiving from a stream that has a status
  have receives : ∀ {v : World} {p : BatchResult × ActiveStream}, (b.recvStatus = false →
      p.2.HasStatus) → (v.setStream p.2).call.HasStatus ∨
        (∃ res, (.ok p.1 : Except PhpException BatchResult) = .ok res) ∧ b.recvStatus = true := by
    intro v p hp
    cases hb : b.recvStatus with
    | true => exact .inr ⟨⟨_, rfl⟩, rfl⟩
    | false =>
        refine .inl fun st hst ↦ ?_
        cases hst
        exact hp hb
  cases hst : w.call.streamState with
  | some st =>
      rcases h.active_cases hst with ⟨e, close, rfl, rfl, -⟩ | ⟨rfl, rfl, -⟩
      · refine .inl fun st' hst' ↦ ?_
        cases hst'.symm.trans (World.forwarded_streamState none close hst)
        exact hw st hst
      · exact receives fun hb ↦ (hw st hst).exchange _ hb
  | none =>
      cases h with
      | notForwarded h | forwarded h | read h | notRead h => simp [hst] at h
      | writePluginFailed _ _ _ _ hp | bufferPluginFailed _ _ _ hp | buffered _ _ _ _ hp
      | freshPluginFailed _ _ _ hp => exact .inl (hw.congr hp.streamState_eq)
      | writeNotStarted _ _ _ _ hp hs => exact .inl (hs.hasStatus (hw.congr hp.streamState_eq))
      | write _ _ _ _ hp hs hsent =>
          have hw₂ := hs.hasStatus (hw.congr hp.streamState_eq)
          exact .inl (hw₂.congr (congrArg _ hsent.call_eq))
      | split _ _ _ hp hs => exact .inl (hs.hasStatus (hw.congr hp.streamState_eq))
      | unary _ _ hq _ he => exact .inl (hw.congr (he.streamState_eq.trans hq.call_eq.1))
      | serverNotStarted _ _ hq _ _ hs => exact .inl (hs.hasStatus (hw.congr hq.call_eq.1))
      | server _ _ hq _ _ hs hst₂ =>
          have hw₂ := hs.hasStatus (hw.congr hq.call_eq.1)
          exact receives fun hb ↦ (hw₂ _ hst₂).streamResult _ hb

/-- The invariant: a stream has a status until the call is finished. -/
def StatusPending (c : GrpcCall) : Prop := c.finished = false → c.HasStatus

/-- Every step keeps the invariant. -/
theorem step_statusPending {w : World} (a : Action) (hw : StatusPending w.call) :
    StatusPending (step T w a).call := by
  cases a with
  | setCredentials | cancel | closeChannel => exact hw
  | startBatch env ops =>
      obtain ⟨r, w', hb, hstep⟩ := step_startBatch_cases T env ops w
      rw [hstep]
      cases hb with
      | rejected | empty => exact hw
      | raised ha hd =>
          intro _
          rcases hd.hasStatus (hw ha.notFinished) with h | ⟨⟨_, hr⟩, -⟩
          · exact h
          · cases hr
      | @returned b _ _ ha hd =>
          intro hfin
          rcases hd.hasStatus (hw ha.notFinished) with h | ⟨-, hrs⟩
          · exact h
          · simp [World.settle, GrpcCall.finish, hrs] at hfin

/-! ## The fallbacks are dead -/

section With

variable (T env) (build : BatchOps → M BatchResult)

/-- CASE 2 of `dispatch_batch`, with `build_stream_result` as a parameter. -/
def dispatchActiveWith (batch : BatchOps) : M BatchResult := do
  forward env (if batch.hasSendOps then batch.sendMessage else none)
    (batch.hasSendOps && batch.sendClose)
  build batch

/-- CASE 3 once the request is known. -/
def dispatchRequestWith (batch : BatchOps) (md plugin : Pairs) (msg : Option Bytes) :
    M BatchResult := do
  if batch.recvMessage && batch.recvStatus then unaryResult T env batch md plugin msg
  else if ← Fallible.gets fun w ↦ w.call.sendClosed then do
    startServerStream T env md plugin msg
    build batch.recvOnly
  else unaryResult T env batch md plugin msg

/-- CASE 3. -/
def dispatchFreshWith (batch : BatchOps) : M BatchResult := do
  if batch.hasSendOps then do
    let plugin ← pluginMetadata env
    dispatchRequestWith T env build batch batch.sendMetadata plugin batch.sendMessage
  else do
    let c ← Fallible.gets World.call
    Fallible.modify fun w ↦ w.takePendingMetadata.takePendingMessage
    dispatchRequestWith T env build batch c.pendingMetadata [] c.pendingMessage

/-- `dispatch_batch`, with `build_stream_result` as a parameter. -/
def dispatchBatchWith (batch : BatchOps) : M BatchResult := do
  if batch.hasSendOps && !batch.hasRecvOps then dispatchSendOnly T env batch
  else if (← Fallible.gets fun w ↦ w.call.streamState).isSome then
    dispatchActiveWith env build batch
  else dispatchFreshWith T env build batch

/-- The parameter is the method of the source. -/
theorem dispatchBatchWith_buildStreamResult :
    dispatchBatchWith T env (buildStreamResult T env) = dispatchBatch T env := rfl

/-- `build` is `build_stream_result` where the call has a stream and `RECV_STATUS_ON_CLIENT`
finds a status; where one of the two fallbacks would be taken it may do anything. -/
def AgreesOffFallbacks : Prop := ∀ b v st, v.call.streamState = some st →
  (beforeStatus T env v.call.deadlineUsec b st).HasStatus → build b v = buildStreamResult T env b v

end With

variable {build : BatchOps → M BatchResult}

/-- On a call whose stream has a status the fallbacks are not taken. -/
theorem AgreesOffFallbacks.apply (h : AgreesOffFallbacks T env build) {v : World}
    {st : ActiveStream} (b : BatchOps) (hst : v.call.streamState = some st) (hv : st.HasStatus) :
    build b v = buildStreamResult T env b v :=
  h b v st hst (hv.beforeStatus _ b)

theorem dispatchRequestWith_eq (h : AgreesOffFallbacks T env build) {b : BatchOps} {md ps : Pairs}
    {msg : Option Bytes} {v : World} (hv : v.call.HasStatus) :
    dispatchRequestWith T env build b md ps msg v = dispatchRequest T env b md ps msg v := by
  unfold dispatchRequestWith dispatchRequest
  split
  · rfl
  · rw [Fallible.bind_ok (Fallible.gets_apply _ _), Fallible.bind_ok (Fallible.gets_apply _ _)]
    split
    · refine Fallible.bind_congr fun _ v' hs ↦ ?_
      have hs := startStream_started hs
      obtain ⟨st, hst⟩ := hs.streamState
      exact h.apply _ hst (hs.hasStatus hv st hst)
    · rfl

theorem dispatchBatchWith_eq (h : AgreesOffFallbacks T env build) (b : BatchOps) {w : World}
    (hw : w.call.HasStatus) : dispatchBatchWith T env build b w = dispatchBatch T env b w := by
  unfold dispatchBatchWith dispatchBatch
  split
  · rfl
  · rw [Fallible.bind_ok (Fallible.gets_apply _ _), Fallible.bind_ok (Fallible.gets_apply _ _)]
    split
    · next hsome =>
      obtain ⟨st, hst⟩ := Option.isSome_iff_exists.mp hsome
      refine Fallible.bind_congr fun _ v hf ↦ ?_
      cases forward_forwarded hf with
      | done _ =>
          refine h.apply b (World.forwarded_streamState _ _ hst) ?_
          exact hw st hst
    · unfold dispatchFreshWith dispatchFresh
      split
      · refine Fallible.bind_congr fun ps v hp ↦ dispatchRequestWith_eq h ?_
        exact hw.congr (pluginMetadata_ran hp).streamState_eq
      · refine Fallible.bind_congr fun c v hc ↦ Fallible.bind_congr fun _ v' hv ↦ ?_
        cases hc
        cases hv
        exact dispatchRequestWith_eq h hw

/-- Where a stream has a status until the call is finished, no batch takes a fallback. -/
theorem startBatchVia_with (h : AgreesOffFallbacks T env build) (ops : ZendHashTable) {w : World}
    (hw : StatusPending w.call) :
    startBatchVia (dispatchBatchWith T env build) ops w = startBatch T env ops w := by
  rw [← startBatchVia_dispatchBatch]
  exact startBatchVia_congr fun b ha ↦ dispatchBatchWith_eq h b (hw ha.notFinished)

/-! ## The statuses of a call -/

theorem Updates.statuses_eq {w w' : World} (h : Updates w w') : w'.statuses = w.statuses :=
  h.observe_eq fun e he ↦ by cases e <;> first | rfl | cases he

/-- At most one status has been delivered, and then the call is finished. -/
structure StatusOnce (w : World) : Prop where
  le_one : w.statuses.length ≤ 1
  finished : w.statuses ≠ [] → w.call.finished = true

theorem step_statusOnce {w : World} (a : Action) (hw : StatusOnce w) :
    StatusOnce (step T w a) := by
  cases a with
  | setCredentials | cancel | closeChannel => exact ⟨hw.le_one, hw.finished⟩
  | startBatch env ops =>
      obtain ⟨r, w', hb, hstep⟩ := step_startBatch_cases T env ops w
      rw [hstep]
      cases hb with
      | rejected | empty => exact ⟨by simpa [World.settle] using hw.le_one,
          by simpa [World.settle] using hw.finished⟩
      | raised ha hd =>
          have hst := hd.updates.statuses_eq
          refine ⟨by simpa [World.settle, hst] using hw.le_one, fun hne ↦ ?_⟩
          exact hd.finished_eq.trans (hw.finished (by simpa [World.settle, hst] using hne))
      | @returned b res w' ha hd =>
          have hst := hd.updates.statuses_eq
          -- nothing was delivered before, or the batch would not have been admitted
          have hnil : w.statuses = [] := by
            by_contra hne
            exact absurd (hw.finished hne) (by simp [ha.notFinished])
          have hnew : (World.settle ops (.ok (res.ack b), w'.mapCall (·.finish b))).statuses
              = res.status.toList := by
            simp [World.settle, hst, hnil, BatchResult.ack]
          refine ⟨by rw [hnew]; cases res.status <;> simp, fun hne ↦ ?_⟩
          -- a result with a status answers a batch that asked for it
          have hrs : b.recvStatus = true := by
            rw [← (hd.answers ha.consistent).status]
            rw [hnew] at hne
            cases hs : res.status with
            | none => simp [hs] at hne
            | some s => rfl
          simp [World.settle, GrpcCall.finish, hrs]

/-- **The status is delivered once, and its fallbacks are dead.**  In every state a call
can reach:

* a stream has a status to deliver until the call is finished;
* no batch takes one of the fallbacks of `build_stream_result`;
* an active stream is neither removed nor replaced by what PHP does next;
* at most one status has been returned, and after it every batch with an entry throws and
  leaves the call as it is. -/
theorem status_once_of_run {method : String} {d : I64} {p : Option PluginRef} {cs : ChannelState}
    {acts : List Action} {w : World}
    (h : Run (graph (step T)) (World.fresh method d p cs) acts w) :
    (∀ st, w.call.streamState = some st → w.call.finished = false →
        st.cachedTrailers.isSome = true ∨ st.trailersRx = true) ∧
      (∀ env build ops, AgreesOffFallbacks T env build →
        startBatchVia (dispatchBatchWith T env build) ops w = startBatch T env ops w) ∧
      (∀ st a, w.call.streamState = some st → (step T w a).rpcs = w.rpcs ∧
        ∃ st', (step T w a).call.streamState = some st' ∧ st.Evolves st') ∧
      w.statuses.length ≤ 1 ∧
      (w.statuses ≠ [] → ∀ env ops, ops ≠ [] → ∃ e, startBatch T env ops w = (.error e, w)) := by
  have hpending : StatusPending w.call := by
    refine h.state_invariant (I := fun w ↦ StatusPending w.call) (fun _ st hst ↦ by cases hst) ?_
    rintro t a _ ht rfl
    exact step_statusPending a ht
  have honce : StatusOnce w := by
    refine h.state_invariant (I := StatusOnce) ⟨Nat.zero_le _, fun hne ↦ absurd rfl hne⟩ ?_
    rintro t a _ ht rfl
    exact step_statusOnce a ht
  refine ⟨fun st hst hfin ↦ hpending hfin st hst, fun env build ops hb ↦ ?_,
    fun st a hst ↦ step_evolves a hst, honce.le_one, fun hne env ops hops ↦ ?_⟩
  · exact startBatchVia_with hb ops hpending
  · exact startBatch_raises_of_finished T env (honce.finished hne) hops

/-- A call whose status has been delivered: the next batch throws. -/
theorem status_once_of_run_split :
    ∃ w, Run (graph (step Tonic.ascii)) (World.fresh "/s/m" I64.max none .idle)
        [.startBatch .calm [metadataOp [], messageOp [1], Op.sendCloseFromClient.flag],
          .startBatch .calm [Op.recvStatusOnClient.flag]] w ∧
      w.statuses ≠ [] ∧ w.statuses.length ≤ 1 ∧ ∀ env ops, ops ≠ [] →
        ∃ e, startBatch Tonic.ascii env ops w = (.error e, w) := by
  have h := Run.of_graph (step Tonic.ascii) (World.fresh "/s/m" I64.max none .idle)
    [.startBatch .calm [metadataOp [], messageOp [1], Op.sendCloseFromClient.flag],
      .startBatch .calm [Op.recvStatusOnClient.flag]]
  obtain ⟨-, -, -, hle, hthrows⟩ := status_once_of_run h
  have hne : World.statuses (List.foldl (step Tonic.ascii) (World.fresh "/s/m" I64.max none .idle)
    [.startBatch .calm [metadataOp [], messageOp [1], Op.sendCloseFromClient.flag],
      .startBatch .calm [Op.recvStatusOnClient.flag]]) ≠ [] := by decide
  exact ⟨_, h, hne, hle, hthrows hne⟩

end GrpcPhp
