import GrpcPhp.Call.Compute
import GrpcPhp.Call.SingleRpc
import GrpcPhp.Call.Returned

/-!
# The life of a stream

Once a call has an active stream it keeps it: a batch drops endpoints of it and takes what
they gave, and never removes it or puts another in its place.  Once the status has been
delivered no batch with an operation is accepted any more.

From these two facts follow the two endings of a call.  The *half-close* is final: after a
batch with `OP_SEND_CLOSE_FROM_CLIENT` has returned, the call is finished or its stream has
no request sender, and no message reaches the transport again.  The *status* is delivered
once, which is the subject of `GrpcPhp/Call/StatusOnce.lean`.
-/

namespace GrpcPhp

open Lib Php

variable {T : Tonic} {env : Env}

/-! ## A stream over time -/

/-- `st'` is the stream `st` at a later time: its endpoints have only been dropped, and the
trailers of a stub, which no task writes, have only been taken. -/
structure ActiveStream.Evolves (st st' : ActiveStream) : Prop where
  driven : st'.driven = st.driven
  msgTx : st'.msgTx = true → st.msgTx = true
  metaRx : st'.metaRx = true → st.metaRx = true
  trailersRx : st'.trailersRx = true → st.trailersRx = true
  cachedTrailers : st.driven = false → ∀ t ∈ st'.cachedTrailers, t ∈ st.cachedTrailers

namespace ActiveStream.Evolves

variable {st st' st'' : ActiveStream}

theorem refl (st : ActiveStream) : st.Evolves st := ⟨rfl, id, id, id, fun _ _ h ↦ h⟩

theorem trans (h : st.Evolves st') (h' : st'.Evolves st'') : st.Evolves st'' where
  driven := h'.driven.trans h.driven
  msgTx := h.msgTx ∘ h'.msgTx
  metaRx := h.metaRx ∘ h'.metaRx
  trailersRx := h.trailersRx ∘ h'.trailersRx
  cachedTrailers hd t ht :=
    h.cachedTrailers hd t (h'.cachedTrailers (h.driven.trans hd) t ht)

/-- A dropped request sender is gone for good. -/
theorem msgTx_eq_false (h : st.Evolves st') (htx : st.msgTx = false) : st'.msgTx = false := by
  by_contra hne
  simp [h.msgTx (by simpa using hne)] at htx

/-- Dropping the request sender. -/
theorem dropSender (st : ActiveStream) (close : Bool) :
    st.Evolves { st with msgTx := st.msgTx && !close } :=
  ⟨rfl, fun h ↦ (Bool.and_eq_true_iff.mp h).1, id, id, fun _ _ h ↦ h⟩

end ActiveStream.Evolves

section Stages

variable (headers : Option MetadataMap) (item : Option Item) (trailers : Option StreamTrailers)
  (d now : I64) (b : BatchOps) (p : BatchResult × ActiveStream)

theorem headersStage_evolves : p.2.Evolves (headersStage T headers b p).2 := by
  obtain ⟨md, rx, h⟩ := headersStage_snd T headers b p
  refine ⟨by simp, ?_, ?_, by simp, by simp⟩
  · rw [h]
    exact id
  · unfold headersStage ActiveStream.recvInitialMetadata
    split
    · cases hw : p.2.awaitsHeaders <;> simp
    · exact id

theorem messageStage_evolves : p.2.Evolves (messageStage T d now item b p).2 := by
  obtain ⟨cached, h⟩ := messageStage_snd T item d now b p
  refine ⟨by simp, ?_, by simp, by simp, fun hd t ht ↦ ?_⟩
  · rw [h]
    exact id
  · -- nothing is read from the queue of a stub
    unfold messageStage ActiveStream.recvMessage at ht
    simp only [hd, Bool.false_eq_true, if_false] at ht
    split at ht
    · split at ht <;> exact ht
    · exact ht

theorem statusStage_evolves : p.2.Evolves (statusStage T trailers b p).2 := by
  obtain ⟨cached, rx, h⟩ := statusStage_snd T trailers b p
  refine ⟨by simp, ?_, by simp, ?_, fun _ t ht ↦ mem_statusStage_cachedTrailers T trailers b p ht⟩
  · rw [h]
    exact id
  · unfold statusStage ActiveStream.recvStatus
    split
    · split
      · exact id
      · split <;> simp
    · exact id

end Stages

/-- Receiving from a stream keeps it. -/
theorem streamResult_evolves (T : Tonic) (env : Env) (d : I64) (b : BatchOps)
    (st : ActiveStream) : st.Evolves (streamResult T env d b st).2 :=
  ((headersStage_evolves env.headers b ({}, st)).trans
    (messageStage_evolves env.item d env.nowStatus b _)).trans
      (statusStage_evolves env.trailers b _)

/-- A batch on a stream drops the sender if it has the close, and keeps the stream. -/
theorem exchange_evolves (T : Tonic) (env : Env) (d : I64) (b : BatchOps) (st : ActiveStream) :
    { st with msgTx := st.msgTx && !b.sendClose }.Evolves (exchange T env d b st).2 := by
  unfold exchange
  split
  · exact streamResult_evolves T env d b _
  · exact .refl _

/-- A dispatch on a stream keeps it. -/
theorem Dispatched.evolves {b : BatchOps} {w w' : World} {r : Except PhpException BatchResult}
    {st : ActiveStream} (h : Dispatched T env b w r w') (hst : w.call.streamState = some st) :
    ∃ st', w'.call.streamState = some st' ∧ st.Evolves st' := by
  rcases h.active_cases hst with ⟨e, close, -, rfl, -⟩ | ⟨-, rfl, -⟩
  · exact ⟨_, World.forwarded_streamState none close hst, .dropSender st close⟩
  · exact ⟨_, rfl, (ActiveStream.Evolves.dropSender st b.sendClose).trans
      (exchange_evolves T env _ b st)⟩

/-- **An active stream stays**, whatever PHP does with the call: it is neither removed nor
replaced, and no RPC is made beside it. -/
theorem step_evolves {w : World} {st : ActiveStream} (a : Action)
    (hst : w.call.streamState = some st) : (step T w a).rpcs = w.rpcs ∧
      ∃ st', (step T w a).call.streamState = some st' ∧ st.Evolves st' := by
  have hstay : ∃ st', w.call.streamState = some st' ∧ st.Evolves st' := ⟨st, hst, .refl st⟩
  cases a with
  | setCredentials plugin => exact ⟨rfl, hstay⟩
  | cancel => exact ⟨rfl, hstay⟩
  | closeChannel => exact ⟨rfl, hstay⟩
  | startBatch env ops =>
      obtain ⟨r, w', hb, hstep⟩ := step_startBatch_cases T env ops w
      rw [hstep]
      cases hb with
      | rejected => exact ⟨by simp [World.settle], hstay⟩
      | empty => exact ⟨by simp [World.settle], hstay⟩
      | raised ha hd | returned ha hd =>
          exact ⟨by simpa [World.settle] using (hd.active_rpcs hst).1, hd.evolves hst⟩

/-! ## After the status -/

/-- A finished call is not changed by a batch. -/
theorem startBatch_of_finished {ops : ZendHashTable} {w w' : World}
    {r : Except PhpException BatchResult} (hf : w.call.finished = true)
    (h : startBatch T env ops w = (r, w')) : w' = w := by
  cases startBatch_batched h with
  | rejected => rfl
  | empty => rfl
  | raised ha => simp [ha.notFinished] at hf
  | returned ha => simp [ha.notFinished] at hf

/-- A finished call throws on every batch with an entry, and is not changed by it. -/
theorem startBatch_raises_of_finished (T : Tonic) (env : Env) {ops : ZendHashTable} {w : World}
    (hf : w.call.finished = true) (hne : ops ≠ []) :
    ∃ e, startBatch T env ops w = (.error e, w) := by
  cases h : startBatch T env ops w with
  | mk r w' =>
      cases startBatch_batched h with
      | rejected => exact ⟨_, rfl⟩
      | empty ha =>
          obtain ⟨b, hp, hsend, hrecv⟩ := admission_none ha
          simpa [hsend, hrecv] using parseOps_hasOps hp hne
      | raised ha => simp [ha.notFinished] at hf
      | returned ha => simp [ha.notFinished] at hf

/-- A dispatch does not touch the flag. -/
theorem Dispatched.finished_eq {b : BatchOps} {w w' : World} {r : Except PhpException BatchResult}
    (h : Dispatched T env b w r w') : w'.call.finished = w.call.finished :=
  show w'.call.core.finished = w.call.core.finished from congrArg _ h.updates.core_eq

/-! ## The half-close -/

/-- The call is finished, or its stream has no request sender. -/
def HalfClosed (c : GrpcCall) : Prop :=
  c.finished = true ∨ ∃ st, c.streamState = some st ∧ st.msgTx = false

/-- A stream started without a request queue has no request sender. -/
theorem Started.msgTx_eq {rpc : I64 → Rpc} {w w' : World}
    (h : Started T env false rpc w (.ok ()) w') :
    ∃ st, w'.call.streamState = some st ∧ st.msgTx = false := by
  cases h <;> exact ⟨_, rfl, rfl⟩

/-- A batch with the close that returns leaves the call half-closed. -/
theorem Dispatched.halfClosed {b : BatchOps} {w w' : World} {r : BatchResult}
    (h : Dispatched T env b w (.ok r) w') (hclose : b.sendClose = true)
    (hclosed : w.call.sendClosed = true) : HalfClosed (w'.call.finish b) := by
  cases hst : w.call.streamState with
  | some st =>
      rcases h.active_cases hst with ⟨e, close, hr, -⟩ | ⟨-, rfl, -⟩
      · cases hr
      · exact .inr ⟨_, rfl, (exchange_evolves T env _ b st).msgTx_eq_false (by simp [hclose])⟩
  | none =>
      generalize hres : (Except.ok r : Except PhpException BatchResult) = res at h
      cases h with
      | notForwarded h | forwarded h | read h | notRead h => simp [hst] at h
      | writePluginFailed | writeNotStarted | bufferPluginFailed | freshPluginFailed
      | serverNotStarted => cases hres
      | write _ _ h | buffered _ _ h => simp [hclose] at h
      | @split _ r' _ _ _ _ _ _ hs =>
          cases r' with
          | error e => cases hres
          | ok u => exact .inr hs.msgTx_eq
      | unary _ _ _ hpat he =>
          -- after the close only the pattern that receives the status is unary
          rcases hpat with hpat | hpat
          · rw [Bool.and_eq_true] at hpat
            exact .inl (by simp [GrpcCall.finish, hpat.2])
          · simp [hclosed] at hpat
      | server _ _ _ _ _ hs hst₂ =>
          obtain ⟨st, hst', htx⟩ := hs.msgTx_eq
          rw [hst₂] at hst'
          cases hst'
          exact .inr ⟨_, rfl, (streamResult_evolves T env _ b _).msgTx_eq_false htx⟩

/-- A dispatch on a half-closed call: the batch has no message, or it throws. -/
theorem Dispatched.of_halfClosed {ops : ZendHashTable} {b : BatchOps} {w w' : World}
    {r : Except PhpException BatchResult} (hd : Dispatched T env b (w.mapCall (·.accept b)) r w')
    (ha : Admitted w.call ops b) (hw : HalfClosed w.call) :
    w'.wire = w.wire ∧ ∀ res, r = .ok res → b.sendMessage = none := by
  rcases hw with hf | ⟨st, hst, htx⟩
  · simp [ha.notFinished] at hf
  · rcases hd.active_cases hst with ⟨e, close, rfl, rfl, -⟩ | ⟨-, rfl, hsend⟩
    · exact ⟨World.observe_forwarded_none close, fun _ h ↦ by cases h⟩
    · cases hm : b.sendMessage with
      | some m => simp [htx] at hsend; simp [hm] at hsend
      | none => exact ⟨rfl, fun _ _ ↦ rfl⟩

/-- **The half-close is final**: every step keeps it, and none puts a message on the wire. -/
theorem HalfClosed.step {w : World} (hw : HalfClosed w.call) (a : Action) :
    HalfClosed (step T w a).call ∧ (GrpcPhp.step T w a).wire = w.wire := by
  have hkept : HalfClosed (GrpcPhp.step T w a).call := by
    rcases hw with hf | ⟨st, hst, htx⟩
    · refine .inl ?_
      cases a with
      | setCredentials | cancel | closeChannel => exact hf
      | startBatch env ops =>
          cases hs : startBatch T env ops w with
          | mk r w' =>
              obtain rfl := startBatch_of_finished hf hs
              cases r <;> simpa [GrpcPhp.step, hs, World.settle] using hf
    · obtain ⟨-, st', hst', hev⟩ := step_evolves (T := T) a hst
      exact .inr ⟨st', hst', hev.msgTx_eq_false htx⟩
  refine ⟨hkept, ?_⟩
  cases a with
  | setCredentials | cancel | closeChannel => rfl
  | startBatch env ops =>
      obtain ⟨r, w', hb, hstep⟩ := step_startBatch_cases T env ops w
      rw [hstep]
      cases hb with
      | rejected | empty => simp [World.settle]
      | raised ha hd | returned ha hd => simpa [World.settle] using (hd.of_halfClosed ha hw).1

/-- A batch with a message throws on a half-closed call. -/
theorem HalfClosed.startBatch_raises (T : Tonic) (env : Env) {ops : ZendHashTable} {w : World}
    (hw : HalfClosed w.call) (hm : Names ops .sendMessage) :
    ∃ e w', startBatch T env ops w = (.error e, w') := by
  cases h : startBatch T env ops w with
  | mk r w' =>
      cases startBatch_batched h with
      | rejected | raised => exact ⟨_, _, rfl⟩
      | empty ha =>
          obtain ⟨b, hp, hsend, hrecv⟩ := admission_none ha
          obtain ⟨e, hmem, -⟩ := hm
          simpa [hsend, hrecv] using parseOps_hasOps hp (List.ne_nil_of_mem hmem)
      | returned ha hd =>
          have hnone := (hd.of_halfClosed ha hw).2 _ rfl
          have hsome := (parseOps_has ha.parsed .sendMessage).mpr hm
          simp [BatchOps.has, hnone] at hsome

/-- A call on which a batch with the close has returned is half-closed, and one more step
keeps that. -/
theorem step_halfClosed {w : World} (a : Action)
    (hw : ∀ p ∈ w.returns, Names p.1 .sendCloseFromClient → HalfClosed w.call) :
    ∀ p ∈ (step T w a).returns, Names p.1 .sendCloseFromClient → HalfClosed (step T w a).call := by
  intro p hp hclose
  by_cases hold : p ∈ w.returns
  · exact ((hw p hold hclose).step a).1
  cases a with
  | setCredentials | cancel | closeChannel => exact absurd hp hold
  | startBatch env ops =>
      obtain ⟨r, w', hb, hstep⟩ := step_startBatch_cases T env ops w
      rw [hstep] at hp ⊢
      cases hb with
      | rejected => exact absurd (by simpa [World.settle] using hp) hold
      | raised ha hd =>
          exact absurd (by simpa [World.settle, hd.updates.returns_eq] using hp) hold
      | empty ha =>
          -- an array that names the close has an operation
          obtain ⟨b, hp', hsend, hrecv⟩ := admission_none ha
          obtain rfl : p = (ops, {}) := by simpa [World.settle, hold] using hp
          obtain ⟨e, hmem, -⟩ := hclose
          simpa [hsend, hrecv] using parseOps_hasOps hp' (List.ne_nil_of_mem hmem)
      | @returned b res _ ha hd =>
          obtain rfl : p = (ops, res.ack b) := by
            simpa [World.settle, hd.updates.returns_eq, hold] using hp
          have hb : b.sendClose = true := (parseOps_has ha.parsed .sendCloseFromClient).mpr hclose
          exact hd.halfClosed hb (by simp [hb])

/-- **The half-close is final.**  In every run of a call, once a batch with
`OP_SEND_CLOSE_FROM_CLIENT` has returned the call is finished or its stream has no request
sender; it stays so however the run goes on, no message is put on the wire any more, and a
batch with a message throws. -/
theorem halfClosed_of_run {method : String} {d : I64} {p : Option PluginRef} {cs : ChannelState}
    {acts : List Action} {w : World} (h : Run (graph (step T)) (World.fresh method d p cs) acts w)
    (hclose : ∃ q ∈ w.returns, Names q.1 .sendCloseFromClient) :
    ∀ acts' w', Run (graph (step T)) w acts' w' →
      (w'.call.finished = true ∨ ∃ st, w'.call.streamState = some st ∧ st.msgTx = false) ∧
      w'.wire = w.wire ∧
      ∀ env ops', Names ops' .sendMessage →
        ∃ e w'', startBatch T env ops' w' = (.error e, w'') := by
  have hw : HalfClosed w.call := by
    obtain ⟨q, hq, hclose⟩ := hclose
    refine h.state_invariant (I := fun w ↦ ∀ q ∈ w.returns, Names q.1 .sendCloseFromClient →
      HalfClosed w.call) (by simp [World.observe, World.fresh]) ?_ q hq hclose
    rintro t a _ ht rfl
    exact step_halfClosed a ht
  intro acts' w' h'
  obtain ⟨hw', hwire⟩ : HalfClosed w'.call ∧ w'.wire = w.wire := by
    refine h'.state_invariant (I := fun w' ↦ HalfClosed w'.call ∧ w'.wire = w.wire) ⟨hw, rfl⟩ ?_
    rintro t a _ ⟨ht, hwire⟩ rfl
    exact ⟨(ht.step a).1, (ht.step a).2.trans hwire⟩
  exact ⟨hw', hwire, fun env _ hm ↦ hw'.startBatch_raises T env hm⟩

/-- A bidi stream that has been closed by a batch that also receives. -/
theorem halfClosed_of_run_bidi :
    ∃ w, Run (graph (step Tonic.ascii)) (World.fresh "/s/m" I64.max none .idle)
        [.startBatch .calm [messageOp [1]],
          .startBatch .calm [Op.sendCloseFromClient.flag, Op.recvMessage.flag]] w ∧
      w.wire = [[1]] ∧ ∀ acts' w', Run (graph (step Tonic.ascii)) w acts' w' →
        (w'.call.finished = true ∨ ∃ st, w'.call.streamState = some st ∧ st.msgTx = false) ∧
        w'.wire = w.wire ∧ ∀ env ops', Names ops' .sendMessage →
          ∃ e w'', startBatch Tonic.ascii env ops' w' = (.error e, w'') := by
  have h := Run.of_graph (step Tonic.ascii) (World.fresh "/s/m" I64.max none .idle)
    [.startBatch .calm [messageOp [1]],
      .startBatch .calm [Op.sendCloseFromClient.flag, Op.recvMessage.flag]]
  have hclose : Names [Op.sendCloseFromClient.flag, Op.recvMessage.flag] .sendCloseFromClient :=
    ⟨_, List.mem_cons_self, by decide⟩
  exact ⟨_, h, by decide,
    halfClosed_of_run h ⟨_, List.mem_cons_of_mem _ List.mem_cons_self, hclose⟩⟩

end GrpcPhp
