import GrpcPhp.Call.Step

/-!
# Computing a batch

The relations of `GrpcPhp/Call/Step.lean` say what a batch may do; the equations here say
what it does do when it is known how its parts end.  They are what a statement about one
particular way to drive a call is proved with.
-/

namespace GrpcPhp

open Lib Php

variable {T : Tonic} {env : Env}

/-! ## From the dispatch to the step -/

/-- A step whose batch is admitted and returns. -/
theorem step_of_dispatch_ok {ops : ZendHashTable} {b : BatchOps}
    {w w' : World} {r : BatchResult} (ha : Admitted w.call ops b)
    (hd : dispatchBatch T env b (w.mapCall (·.accept b)) = (.ok r, w')) :
    step T w (.startBatch env ops)
      = (w'.mapCall (·.finish b)).emit (.returned ops (r.ack b)) := by
  simp only [step, startBatch, Fallible.bind_apply, Fallible.gets_apply, Fallible.lift_apply,
    ha.admission_eq, Fallible.modify_apply, hd, Fallible.pure_apply, World.settle]

/-- A step whose batch is admitted and throws. -/
theorem step_of_dispatch_error {ops : ZendHashTable} {b : BatchOps}
    {w w' : World} {e : PhpException} (ha : Admitted w.call ops b)
    (hd : dispatchBatch T env b (w.mapCall (·.accept b)) = (.error e, w')) :
    step T w (.startBatch env ops) = w'.emit (.raised e) := by
  simp only [step, startBatch, Fallible.bind_apply, Fallible.gets_apply, Fallible.lift_apply,
    ha.admission_eq, Fallible.modify_apply, hd, World.settle]

/-- A step whose batch is rejected. -/
theorem step_of_rejected {ops : ZendHashTable} {w : World}
    {e : PhpException} (h : admission w.call ops = .error e) :
    step T w (.startBatch env ops) = w.emit (.raised e) := by
  simp only [step, startBatch, Fallible.bind_apply, Fallible.gets_apply, Fallible.lift_apply, h,
    World.settle]

/-- A step whose batch has no operations. -/
theorem step_of_empty {ops : ZendHashTable} {w : World}
    (h : admission w.call ops = .ok none) :
    step T w (.startBatch env ops) = w.emit (.returned ops {}) := by
  simp only [step, startBatch, Fallible.bind_apply, Fallible.gets_apply, Fallible.lift_apply, h,
    Fallible.pure_apply, World.settle]

/-! ## Batches on an active stream -/

/-- What a batch makes of the stream state once its message has been sent. -/
def exchange (T : Tonic) (env : Env) (deadlineUsec : I64) (b : BatchOps) (st : ActiveStream) :
    BatchResult × ActiveStream :=
  let st := { st with msgTx := st.msgTx && !b.sendClose }
  if b.hasRecvOps then streamResult T env deadlineUsec b st else ({}, st)

/-- The world after a batch that returned, with its result and the stream state it left. -/
def World.conclude (w : World) (ops : ZendHashTable) (b : BatchOps)
    (p : BatchResult × ActiveStream) : World :=
  ((w.setStream p.2).mapCall (·.finish b)).emit (.returned ops (p.1.ack b))

section Active

variable {ops : ZendHashTable} {b : BatchOps} {w : World} {st : ActiveStream} {m : Bytes}

/-- A stream without a request sender. -/
theorem sendStreamMessage_noSender (hst : w.call.streamState = some st) (htx : st.msgTx = false)
    (hrt : env.runtime = .ok ()) :
    sendStreamMessage env m w = (.error (.default "stream does not support sending"), w) := by
  rw [sendStreamMessage, Fallible.bind_ok (getRuntime_ok hrt w)]
  simp [Fallible.bind_apply, hst, htx]

/-- A stream whose request queue is closed. -/
theorem sendStreamMessage_closed (hst : w.call.streamState = some st) (htx : st.msgTx = true)
    (hok : env.sendOk = false) (hrt : env.runtime = .ok ()) :
    sendStreamMessage env m w = (.error (.default "stream send channel closed"), w) := by
  rw [sendStreamMessage, Fallible.bind_ok (getRuntime_ok hrt w)]
  simp [Fallible.bind_apply, hst, htx, hok]

/-- A stream that sends. -/
theorem sendStreamMessage_ok (hst : w.call.streamState = some st) (htx : st.msgTx = true)
    (hok : env.sendOk = true) (hrt : env.runtime = .ok ()) :
    sendStreamMessage env m w = (.ok (), w.emit (.message m)) := by
  rw [sendStreamMessage, Fallible.bind_ok (getRuntime_ok hrt w)]
  simp [Fallible.bind_apply, hst, htx, hok]

/-- Forwarding what can be sent. -/
theorem forward_ok {msg : Option Bytes} {close : Bool} (hst : w.call.streamState = some st)
    (hsend : ∀ m, msg = some m → st.msgTx = true ∧ env.sendOk = true)
    (hrt : env.runtime = .ok ()) :
    forward env msg close w = (.ok (), w.forwarded msg close) := by
  cases msg with
  | none => cases close <;> rfl
  | some m =>
      obtain ⟨htx, hok⟩ := hsend m rfl
      refine (Fallible.bind_ok (sendStreamMessage_ok hst htx hok hrt)).trans ?_
      cases close <;> rfl

/-- The messages a batch sends are logged before it receives. -/
def World.sent (w : World) (msg : Option Bytes) : World := match msg with
  | some m => w.emit (.message m)
  | none => w

/-- Forwarding and then concluding: the stream state that forwarding left is overwritten. -/
theorem World.forwarded_conclude (w : World) (msg : Option Bytes) (close : Bool)
    (p : BatchResult × ActiveStream) :
    (((w.forwarded msg close).setStream p.2).mapCall (·.finish b)).emit (.returned ops (p.1.ack b))
      = (w.sent msg).conclude ops b p := by
  cases msg <;> cases close <;> rfl

/-- Installing the stream that is active. -/
theorem World.setStream_of_streamState (hst : w.call.streamState = some st) :
    w.setStream st = w := by
  rw [World.setStream, ← hst]

/-- Installing a stream over the one that forwarding left. -/
theorem World.forwarded_setStream (w : World) (msg : Option Bytes) (close : Bool)
    (st : ActiveStream) : (w.forwarded msg close).setStream st = (w.sent msg).setStream st := by
  cases msg <;> cases close <;> rfl

/-- **Inversion of a dispatch on an active stream**: either the batch raises, and a close at most
has been forwarded, or it was exchanged with the stream. -/
theorem Dispatched.active_cases {w' : World} {r : Except PhpException BatchResult}
    (h : Dispatched T env b w r w') (hst : w.call.streamState = some st) :
    (∃ e close, r = .error e ∧ w' = w.forwarded none close ∧ (close = true → b.sendClose = true))
      ∨ r = .ok (exchange T env w.call.deadlineUsec b st).1
        ∧ w' = (w.sent b.sendMessage).setStream (exchange T env w.call.deadlineUsec b st).2
        ∧ ∀ m, b.sendMessage = some m → st.msgTx = true ∧ env.sendOk = true := by
  have hsendable : (∀ m, b.sendMessage = some m → Sent env m w (.ok ()) (w.emit (.message m))) →
      ∀ m, b.sendMessage = some m → st.msgTx = true ∧ env.sendOk = true := by
    intro hsent m hm
    cases hsent m hm with
    | delivered hst' htx hok =>
        rw [hst] at hst'
        cases hst'
        exact ⟨htx, hok⟩
  cases h with
  | notForwarded => exact .inl ⟨_, false, rfl, rfl, nofun⟩
  | notRead => exact .inl ⟨_, b.sendClose, rfl, rfl, id⟩
  | forwarded _ hrecv hf =>
      cases hf with
      | done hsent =>
          refine .inr ⟨by rw [exchange, hrecv]; rfl, ?_, hsendable hsent⟩
          have hex : (exchange T env w.call.deadlineUsec b st).2
              = { st with msgTx := st.msgTx && !b.sendClose } := by rw [exchange, hrecv]; rfl
          rw [hex, ← World.forwarded_setStream w b.sendMessage b.sendClose,
            World.setStream_of_streamState (World.forwarded_streamState _ _ hst)]
  | read _ hrecv hf hst₁ =>
      cases hf with
      | done hsent =>
          have hst' := World.forwarded_streamState b.sendMessage b.sendClose hst
          rw [hst₁] at hst'
          cases hst'
          have hdl : (w.forwarded b.sendMessage b.sendClose).call.deadlineUsec
              = w.call.deadlineUsec := by
            cases b.sendMessage <;> cases b.sendClose <;> rfl
          have hex : exchange T env w.call.deadlineUsec b st = streamResult T env
              w.call.deadlineUsec b { st with msgTx := st.msgTx && !b.sendClose } := by
            rw [exchange, hrecv]; rfl
          rw [hdl, hex]
          exact .inr ⟨rfl, World.forwarded_setStream _ _ _ _, hsendable hsent⟩
  | writePluginFailed h | writeNotStarted h | write h | bufferPluginFailed h | buffered h | split h
  | freshPluginFailed h | unary h | serverNotStarted h | server h => simp [hst] at h

/-- A batch whose message, if it has one, can be sent. -/
theorem step_active (ha : Admitted w.call ops b) (hst : w.call.streamState = some st)
    (hsend : ∀ m, b.sendMessage = some m → st.msgTx = true ∧ env.sendOk = true)
    (hrt : env.runtime = .ok ()) :
    step T w (.startBatch env ops) = ((w.mapCall (·.accept b)).sent b.sendMessage).conclude ops b
      (exchange T env w.call.deadlineUsec b st) := by
  have hacc : (w.mapCall (·.accept b)).call.streamState = some st := hst
  have hst' := World.forwarded_streamState b.sendMessage b.sendClose hacc
  have hdl : ((w.mapCall (·.accept b)).forwarded b.sendMessage b.sendClose).call.deadlineUsec
      = w.call.deadlineUsec := by
    cases b.sendMessage <;> cases b.sendClose <;> rfl
  have hd := dispatchBatch_active T env ha.consistent ha.hasOps hacc
  rw [Fallible.bind_ok (forward_ok hacc hsend hrt)] at hd
  rw [← World.forwarded_conclude, exchange]
  cases hrecv : b.hasRecvOps with
  | false =>
      simp only [hrecv, Bool.false_eq_true, if_false, Fallible.pure_apply] at hd ⊢
      rw [step_of_dispatch_ok ha hd, World.setStream_of_streamState hst']
  | true =>
      simp only [hrecv, if_true, buildStreamResult_apply hst' hrt, hdl] at hd ⊢
      rw [step_of_dispatch_ok ha hd]

/-- A batch whose message cannot be sent. -/
theorem step_active_raised (ha : Admitted w.call ops b) (hst : w.call.streamState = some st)
    (hm : b.sendMessage = some m) {e : PhpException}
    (he : sendStreamMessage env m (w.mapCall (·.accept b)) = (.error e, w.mapCall (·.accept b))) :
    step T w (.startBatch env ops) = (w.mapCall (·.accept b)).emit (.raised e) := by
  have hacc : (w.mapCall (·.accept b)).call.streamState = some st := hst
  have hf : forward env b.sendMessage b.sendClose (w.mapCall (·.accept b))
      = (.error e, w.mapCall (·.accept b)) := by
    rw [hm]
    exact Fallible.bind_error he
  refine step_of_dispatch_error ha ?_
  exact (dispatchBatch_active T env ha.consistent ha.hasOps hacc).trans (Fallible.bind_error hf)

/-! ## Batches that start a call -/

/-- A first write that starts its stream has the message left to send. -/
theorem dispatchBatch_write {ps : Pairs} {v v' : World} (hst : w.call.streamState = none)
    (hrecv : b.hasRecvOps = false) (hsend : b.hasSendOps = true) (hclose : b.sendClose = false)
    (hm : b.sendMessage = some m) (hp : PluginRan env w.takePendingMetadata (.ok ps) v)
    (hs : Started T env true (bidiRpc T env w.call.pendingMetadata ps) v (.ok ()) v') :
    dispatchBatch T env b w = (sendStreamMessage env m >>= fun _ ↦ pure {}) v' := by
  have hstart : startBidiStream T env w.call.pendingMetadata ps v = (.ok (), v') :=
    hs.startStream_eq
  rw [dispatchBatch_startWrite hst hrecv hsend hclose hm, startWrite,
    Fallible.bind_ok (Fallible.gets_apply _ _), Fallible.bind_ok (Fallible.modify_apply _ _),
    Fallible.bind_ok hp.pluginMetadata_eq, Fallible.bind_ok hstart, hm]

/-- Metadata that comes alone is buffered. -/
theorem dispatchBatch_buffered {ps : Pairs} {v : World} (hst : w.call.streamState = none)
    (hrecv : b.hasRecvOps = false) (hsend : b.hasSendOps = true) (hclose : b.sendClose = false)
    (hm : b.sendMessage = none) (hp : PluginRan env (w.buffer b) (.ok ps) v) :
    dispatchBatch T env b w = (.ok {}, v.extendPending ps) := by
  rw [dispatchBatch_bufferSend hst hrecv hsend (.inr hm), bufferSend_open hclose hp]

/-- A half-closed start dispatches what it has just buffered as a server stream. -/
theorem dispatchBatch_split {ps : Pairs} {v v' : World} (hst : w.call.streamState = none)
    (hrecv : b.hasRecvOps = false) (hsend : b.hasSendOps = true) (hclose : b.sendClose = true)
    (hp : PluginRan env (w.buffer b) (.ok ps) v)
    (hs : Started T env false (serverRpc T env (b.sendMetadata ++ ps) [] b.sendMessage)
      (v.extendPending ps).takePendingMetadata.takePendingMessage (.ok ()) v') :
    dispatchBatch T env b w = (.ok {}, v') := by
  rw [dispatchBatch_bufferSend hst hrecv hsend (.inl hclose), bufferSend_close hclose hp]
  exact Fallible.bind_ok hs.startStream_eq

/-- A receive batch that starts a server stream reads from it. -/
theorem dispatchBatch_read {md ps : Pairs} {msg : Option Bytes} {v v' : World}
    (hst : w.call.streamState = none) (hrecv : b.hasRecvOps = true)
    (hq : Requested env b w md ps msg v) (hpat : (b.recvMessage && b.recvStatus) = false)
    (hclosed : w.call.sendClosed = true)
    (hs : Started T env false (serverRpc T env md ps msg) v (.ok ()) v')
    (hst' : v'.call.streamState = some st) :
    dispatchBatch T env b w = (.ok (streamResult T env v'.call.deadlineUsec b st).1,
      v'.setStream (streamResult T env v'.call.deadlineUsec b st).2) := by
  have hstart : startServerStream T env md ps msg v = (.ok (), v') := hs.startStream_eq
  rw [dispatchBatch_fresh hst hrecv, hq.dispatchFresh_eq]
  simp only [dispatchRequest, hpat, Bool.false_eq_true, if_false, Fallible.bind_apply,
    Fallible.gets_apply, hq.call_eq.2, hclosed, if_true, hstart]
  exact buildStreamResult_apply hst' hs.runtime_eq

/-- A unary call that returns. -/
theorem dispatchBatch_unary {md ps : Pairs} {msg : Option Bytes} {v v' : World}
    {result : CallResult} (hst : w.call.streamState = none) (hrecv : b.hasRecvOps = true)
    (hq : Requested env b w md ps msg v) (hpat : (b.recvMessage && b.recvStatus) = true)
    (he : Executed T env md ps msg v (.ok result) v') : dispatchBatch T env b w =
      (.ok (buildUnaryResult T b.recvInitialMetadata b.recvMessage b.recvStatus result), v') := by
  rw [dispatchBatch_fresh hst hrecv, hq.dispatchFresh_eq]
  simp only [dispatchRequest, hpat, if_true]
  exact Fallible.bind_ok he.executeCall_eq

end Active

end GrpcPhp
