import GrpcPhp.Call.Outcome
import GrpcPhp.Lib.Run

/-!
# What one batch can do

Every invariant of a call is a statement about the steps of the PHP program, and a
step is one batch.  `Dispatched` says once and for all what a dispatch can do: its
constructors are the paths through `dispatch_batch`, with the world each of them
leaves.  `Batched` is the same for a whole `startBatch`: the batch was rejected and
nothing changed, or it had no operations and nothing changed, or it was admitted and
dispatched.

The invariants of the files that follow are case analyses of these two relations.
-/

namespace GrpcPhp

open Lib Php

variable {T : Tonic} {env : Env}

/-! ## The dispatch -/

/-- Where the request of a receive batch without an active stream comes from. -/
inductive Requested (env : Env) (b : BatchOps) (w : World) :
    Pairs → Pairs → Option Bytes → World → Prop
  | /-- From the batch, with the plugin's pairs. -/
    own {ps : Pairs} {w₁ : World} (h : b.hasSendOps = true) (hp : PluginRan env w (.ok ps) w₁) :
      Requested env b w b.sendMetadata ps b.sendMessage w₁
  | /-- From the buffers, which are taken; the plugin is not invoked. -/
    buffered (h : b.hasSendOps = false) :
      Requested env b w w.call.pendingMetadata [] w.call.pendingMessage
        w.takePendingMetadata.takePendingMessage

/-- The RPC of `start_server_stream`. -/
def serverRpc (T : Tonic) (env : Env) (md plugin : Pairs) (msg : Option Bytes) (d : I64) : Rpc :=
  .serverStreaming (buildRequest T env md plugin (msg.getD []) d)

/-- The RPC of `start_bidi_stream`. -/
def bidiRpc (T : Tonic) (env : Env) (md plugin : Pairs) (d : I64) : Rpc :=
  .streaming (buildRequest T env md plugin () d)

/-- **The paths through `dispatch_batch`**, for a batch `b` admitted in the world `w`. -/
inductive Dispatched (T : Tonic) (env : Env) (b : BatchOps) (w : World) :
    Except PhpException BatchResult → World → Prop
  | /-- A message for the active stream could not be sent. -/
    notForwarded {st : ActiveStream} {e : PhpException} (hst : w.call.streamState = some st)
      (hf : Forwarded env b.sendMessage b.sendClose w (.error e) w) :
      Dispatched T env b w (.error e) w
  | /-- A send-only batch on the active stream. -/
    forwarded {st : ActiveStream} {w₁ : World} (hst : w.call.streamState = some st)
      (hrecv : b.hasRecvOps = false)
      (hf : Forwarded env b.sendMessage b.sendClose w (.ok ()) w₁) :
      Dispatched T env b w (.ok {}) w₁
  | /-- A batch that receives from the active stream. -/
    read {st st₁ : ActiveStream} {w₁ : World} (hst : w.call.streamState = some st)
      (hrecv : b.hasRecvOps = true)
      (hf : Forwarded env b.sendMessage b.sendClose w (.ok ()) w₁)
      (hst₁ : w₁.call.streamState = some st₁) (hrt : env.runtime = .ok ()) :
      Dispatched T env b w (.ok (streamResult T env w₁.call.deadlineUsec b st₁).1)
        (w₁.setStream (streamResult T env w₁.call.deadlineUsec b st₁).2)
  | /-- There is no runtime to receive with; a close has been forwarded. -/
    notRead {st : ActiveStream} {text : String} (hst : w.call.streamState = some st)
      (hrecv : b.hasRecvOps = true) (hm : b.sendMessage = none) (hrt : env.runtime = .error text) :
      Dispatched T env b w (.error (noRuntime text)) (w.forwarded none b.sendClose)
  | /-- A first write whose plugin failed; the buffered metadata is gone. -/
    writePluginFailed {m : Bytes} {e : PhpException} {w₁ : World}
      (hst : w.call.streamState = none) (hrecv : b.hasRecvOps = false)
      (hclose : b.sendClose = false) (hm : b.sendMessage = some m)
      (hp : PluginRan env w.takePendingMetadata (.error e) w₁) :
      Dispatched T env b w (.error e) w₁
  | /-- A first write whose stream could not be started. -/
    writeNotStarted {m : Bytes} {ps : Pairs} {e : PhpException} {w₁ w₂ : World}
      (hst : w.call.streamState = none) (hrecv : b.hasRecvOps = false)
      (hclose : b.sendClose = false) (hm : b.sendMessage = some m)
      (hp : PluginRan env w.takePendingMetadata (.ok ps) w₁)
      (hs : Started T env true (bidiRpc T env w.call.pendingMetadata ps) w₁ (.error e) w₂) :
      Dispatched T env b w (.error e) w₂
  | /-- A first write: the stream is started and the message sent on it. -/
    write {m : Bytes} {ps : Pairs} {r : Except PhpException Unit} {w₁ w₂ w₃ : World}
      (hst : w.call.streamState = none) (hrecv : b.hasRecvOps = false)
      (hclose : b.sendClose = false) (hm : b.sendMessage = some m)
      (hp : PluginRan env w.takePendingMetadata (.ok ps) w₁)
      (hs : Started T env true (bidiRpc T env w.call.pendingMetadata ps) w₁ (.ok ()) w₂)
      (hsent : Sent env m w₂ r w₃) :
      Dispatched T env b w (r.map fun _ ↦ {}) w₃
  | /-- A buffering batch whose plugin failed; the buffers are overwritten already. -/
    bufferPluginFailed {e : PhpException} {w₁ : World} (hst : w.call.streamState = none)
      (hrecv : b.hasRecvOps = false) (hclose : b.sendClose = true ∨ b.sendMessage = none)
      (hp : PluginRan env (w.buffer b) (.error e) w₁) :
      Dispatched T env b w (.error e) w₁
  | /-- A batch that only fills the buffers. -/
    buffered {ps : Pairs} {w₁ : World} (hst : w.call.streamState = none)
      (hrecv : b.hasRecvOps = false) (hclose : b.sendClose = false) (hm : b.sendMessage = none)
      (hp : PluginRan env (w.buffer b) (.ok ps) w₁) :
      Dispatched T env b w (.ok {}) (w₁.extendPending ps)
  | /-- A half-closed start: what is buffered is dispatched as a server stream. -/
    split {ps : Pairs} {r : Except PhpException Unit} {w₁ w₂ : World}
      (hst : w.call.streamState = none) (hrecv : b.hasRecvOps = false)
      (hclose : b.sendClose = true) (hp : PluginRan env (w.buffer b) (.ok ps) w₁)
      (hs : Started T env false (serverRpc T env (b.sendMetadata ++ ps) [] b.sendMessage)
        (w₁.extendPending ps).takePendingMetadata.takePendingMessage r w₂) :
      Dispatched T env b w (r.map fun _ ↦ {}) w₂
  | /-- A receive batch with send operations whose plugin failed. -/
    freshPluginFailed {e : PhpException} {w₁ : World} (hst : w.call.streamState = none)
      (hrecv : b.hasRecvOps = true) (hsend : b.hasSendOps = true)
      (hp : PluginRan env w (.error e) w₁) :
      Dispatched T env b w (.error e) w₁
  | /-- A unary call. -/
    unary {md ps : Pairs} {msg : Option Bytes} {r : Except PhpException CallResult} {w₁ w₂ : World}
      (hst : w.call.streamState = none) (hrecv : b.hasRecvOps = true)
      (hq : Requested env b w md ps msg w₁)
      (hpat : (b.recvMessage && b.recvStatus) = true ∨ w.call.sendClosed = false)
      (he : Executed T env md ps msg w₁ r w₂) :
      Dispatched T env b w
        (r.map (buildUnaryResult T b.recvInitialMetadata b.recvMessage b.recvStatus)) w₂
  | /-- A server stream that could not be started. -/
    serverNotStarted {md ps : Pairs} {msg : Option Bytes} {e : PhpException} {w₁ w₂ : World}
      (hst : w.call.streamState = none) (hrecv : b.hasRecvOps = true)
      (hq : Requested env b w md ps msg w₁)
      (hpat : (b.recvMessage && b.recvStatus) = false) (hclosed : w.call.sendClosed = true)
      (hs : Started T env false (serverRpc T env md ps msg) w₁ (.error e) w₂) :
      Dispatched T env b w (.error e) w₂
  | /-- A server stream, and the first read from it. -/
    server {md ps : Pairs} {msg : Option Bytes} {st : ActiveStream} {w₁ w₂ : World}
      (hst : w.call.streamState = none) (hrecv : b.hasRecvOps = true)
      (hq : Requested env b w md ps msg w₁)
      (hpat : (b.recvMessage && b.recvStatus) = false) (hclosed : w.call.sendClosed = true)
      (hs : Started T env false (serverRpc T env md ps msg) w₁ (.ok ()) w₂)
      (hst₂ : w₂.call.streamState = some st) :
      Dispatched T env b w (.ok (streamResult T env w₂.call.deadlineUsec b st).1)
        (w₂.setStream (streamResult T env w₂.call.deadlineUsec b st).2)

/-- Building the result from an active stream. -/
theorem buildStreamResult_apply {b : BatchOps} {w : World} {st : ActiveStream}
    (h : w.call.streamState = some st) (hrt : env.runtime = .ok ()) :
    buildStreamResult T env b w = (.ok (streamResult T env w.call.deadlineUsec b st).1,
      w.setStream (streamResult T env w.call.deadlineUsec b st).2) := by
  rw [buildStreamResult, Fallible.bind_ok (getRuntime_ok hrt w)]
  simp only [Fallible.bind_apply, Fallible.gets_apply, h,
    Fallible.modify_apply, Fallible.pure_apply]

/-- Forwarding leaves an active stream active. -/
theorem World.forwarded_streamState {w : World} {st : ActiveStream} (msg : Option Bytes)
    (close : Bool) (h : w.call.streamState = some st) :
    (w.forwarded msg close).call.streamState
      = some { st with msgTx := st.msgTx && !close } := by
  cases msg <;> cases close <;> simp [World.forwarded, World.closeSend, h]

/-- Resolving a request reads or takes the buffers and nothing else. -/
theorem Requested.call_eq {b : BatchOps} {w w' : World} {md ps : Pairs} {msg : Option Bytes}
    (h : Requested env b w md ps msg w') :
    w'.call.streamState = w.call.streamState ∧ w'.call.sendClosed = w.call.sendClosed := by
  cases h with
  | own _ hp => rw [hp.call_eq]; exact ⟨rfl, rfl⟩
  | buffered _ => exact ⟨rfl, rfl⟩

/-- Resolving a request is observed only through the plugin's event. -/
theorem Requested.observe_eq {α : Type} {f : Event → List α} (hf : ∀ ps, f (.plugin ps) = [])
    {b : BatchOps} {w w' : World} {md ps : Pairs} {msg : Option Bytes}
    (h : Requested env b w md ps msg w') : w'.observe f = w.observe f := by
  cases h with
  | own _ hp => exact hp.observe_eq hf
  | buffered _ => rfl

/-- The relation determines the request. -/
theorem Requested.dispatchFresh_eq {b : BatchOps} {w w' : World} {md ps : Pairs}
    {msg : Option Bytes} (h : Requested env b w md ps msg w') :
    dispatchFresh T env b w = dispatchRequest T env b md ps msg w' := by
  cases h with
  | own hsend hp => simp [dispatchFresh, hsend, Fallible.bind_ok hp.pluginMetadata_eq]
  | buffered hsend => simp [dispatchFresh, hsend, Fallible.bind_apply]

/-- Of the environment, the request depends on the plugin. -/
theorem Requested.of_plugin (env' : Env) {b : BatchOps} {w w' : World} {md ps : Pairs}
    {msg : Option Bytes} (h : Requested env b w md ps msg w') (he : env'.plugin = env.plugin) :
    Requested env' b w md ps msg w' := by
  cases h with
  | own hsend hp => exact .own hsend (hp.of_plugin env' he)
  | buffered hsend => exact .buffered hsend

/-- A stream that was started is active. -/
theorem Started.streamState {bidi : Bool} {rpc : I64 → Rpc} {w w' : World}
    (h : Started T env bidi rpc w (.ok ()) w') :
    ∃ st, w'.call.streamState = some st := by
  cases h <;> exact ⟨_, rfl⟩

/-! ### Routing -/

/-- The message a batch forwards is the one it has. -/
theorem BatchOps.Consistent.message_eq {b : BatchOps} (hb : b.Consistent) :
    (if b.hasSendOps then b.sendMessage else none) = b.sendMessage := by
  rw [hb.send]
  cases b.sendMessage <;> simp

/-- The close a batch forwards is the one it has. -/
theorem BatchOps.Consistent.close_eq {b : BatchOps} (hb : b.Consistent) :
    (b.hasSendOps && b.sendClose) = b.sendClose := by
  rw [hb.send]
  cases b.sendClose <;> simp

section Routing

variable {b : BatchOps} {w w' : World} {r : Except PhpException BatchResult}

/-- With an active stream, a batch forwards and then receives. -/
theorem dispatchBatch_active (T : Tonic) (env : Env) {st : ActiveStream} (hb : b.Consistent)
    (hops : (b.hasSendOps || b.hasRecvOps) = true) (hst : w.call.streamState = some st) :
    dispatchBatch T env b w = (forward env b.sendMessage b.sendClose >>= fun _ ↦
      if b.hasRecvOps then buildStreamResult T env b else pure {}) w := by
  cases hrecv : b.hasRecvOps with
  | false =>
      have hsend : b.hasSendOps = true := by simpa [hrecv] using hops
      simp [dispatchBatch, dispatchSendOnly, hsend, hrecv, hst, Fallible.bind_apply]
  | true =>
      simp [dispatchBatch, dispatchActive, hrecv, hst, hb.message_eq, hb.close_eq,
        Fallible.bind_apply]

/-- Without one, a message that comes alone opens a bidi stream. -/
theorem dispatchBatch_startWrite {m : Bytes} (hst : w.call.streamState = none)
    (hrecv : b.hasRecvOps = false) (hsend : b.hasSendOps = true) (hclose : b.sendClose = false)
    (hm : b.sendMessage = some m) : dispatchBatch T env b w = startWrite T env b w := by
  simp [dispatchBatch, dispatchSendOnly, hsend, hrecv, hst, hclose, hm, Fallible.bind_apply]

/-- Other send-only batches are buffered. -/
theorem dispatchBatch_bufferSend (hst : w.call.streamState = none) (hrecv : b.hasRecvOps = false)
    (hsend : b.hasSendOps = true) (hclose : b.sendClose = true ∨ b.sendMessage = none) :
    dispatchBatch T env b w = bufferSend T env b w := by
  have hwrite : (!b.sendClose && b.sendMessage.isSome) = false := by
    obtain hclose | hm := hclose
    · simp [hclose]
    · simp [hm]
  simp [dispatchBatch, dispatchSendOnly, hsend, hrecv, hst, hwrite, Fallible.bind_apply]

/-- A batch that receives makes a request. -/
theorem dispatchBatch_fresh (hst : w.call.streamState = none) (hrecv : b.hasRecvOps = true) :
    dispatchBatch T env b w = dispatchFresh T env b w := by
  simp [dispatchBatch, hrecv, hst, Fallible.bind_apply]

/-- Without a close, a batch is only buffered. -/
theorem bufferSend_open {ps : Pairs} (hclose : b.sendClose = false)
    (hp : PluginRan env (w.buffer b) (.ok ps) w') :
    bufferSend T env b w = (.ok {}, w'.extendPending ps) := by
  rw [bufferSend, Fallible.bind_ok (Fallible.modify_apply _ _),
    Fallible.bind_ok hp.pluginMetadata_eq, Fallible.bind_ok (Fallible.modify_apply _ _)]
  simp only [hclose, Bool.false_eq_true, if_false, Fallible.pure_apply]

/-- With a close, what a batch has just buffered is dispatched at once. -/
theorem bufferSend_close {ps : Pairs} (hclose : b.sendClose = true)
    (hp : PluginRan env (w.buffer b) (.ok ps) w') :
    bufferSend T env b w = (startServerStream T env (b.sendMetadata ++ ps) [] b.sendMessage
      >>= fun _ ↦ pure {}) (w'.extendPending ps).takePendingMetadata.takePendingMessage := by
  -- the buffers hold exactly what this batch put there
  have hmd : (w'.extendPending ps).call.pendingMetadata = b.sendMetadata ++ ps := by
    simp [World.extendPending, hp.call_eq, World.buffer]
  have hmsg : (w'.extendPending ps).call.pendingMessage = b.sendMessage := by
    simp [World.extendPending, hp.call_eq, World.buffer]
  rw [bufferSend, Fallible.bind_ok (Fallible.modify_apply _ _),
    Fallible.bind_ok hp.pluginMetadata_eq, Fallible.bind_ok (Fallible.modify_apply _ _)]
  simp only [hclose, if_true, Fallible.bind_apply, Fallible.gets_apply, Fallible.modify_apply, hmd,
    hmsg]

end Routing

/-! ### Inversion -/

theorem startWrite_dispatched {b : BatchOps} {w w' : World} {m : Bytes}
    {r : Except PhpException BatchResult} (hst : w.call.streamState = none)
    (hrecv : b.hasRecvOps = false) (hclose : b.sendClose = false) (hm : b.sendMessage = some m)
    (h : startWrite T env b w = (r, w')) : Dispatched T env b w r w' := by
  have h : (pluginMetadata env >>= fun plugin ↦
      startBidiStream T env w.call.pendingMetadata plugin >>= fun _ ↦
      sendStreamMessage env m >>= fun _ ↦ pure {}) w.takePendingMetadata = (r, w') := by
    rw [← h]
    simp only [startWrite, Fallible.bind_apply, Fallible.gets_apply, Fallible.modify_apply, hm]
  rcases Fallible.bind_inv h with ⟨ps, w₁, hp, h⟩ | ⟨e, hp, rfl⟩
  · rcases Fallible.bind_inv h with ⟨_, w₂, hs, h⟩ | ⟨e, hs, rfl⟩
    · rcases Fallible.bind_inv h with ⟨_, w₃, hsent, h⟩ | ⟨e, hsent, rfl⟩
      · cases h
        exact .write hst hrecv hclose hm (pluginMetadata_ran hp) (startStream_started hs)
          (sendStreamMessage_sent hsent)
      · exact .write hst hrecv hclose hm (pluginMetadata_ran hp) (startStream_started hs)
          (sendStreamMessage_sent hsent)
    · exact .writeNotStarted hst hrecv hclose hm (pluginMetadata_ran hp) (startStream_started hs)
  · exact .writePluginFailed hst hrecv hclose hm (pluginMetadata_ran hp)

theorem bufferSend_dispatched {b : BatchOps} {w w' : World} {r : Except PhpException BatchResult}
    (hst : w.call.streamState = none) (hrecv : b.hasRecvOps = false)
    (hclose : b.sendClose = true ∨ b.sendMessage = none)
    (h : bufferSend T env b w = (r, w')) : Dispatched T env b w r w' := by
  obtain ⟨rp, w₁, hp⟩ := exists_pluginRan env (w.buffer b)
  cases rp with
  | error e =>
      rw [bufferSend, Fallible.bind_ok (Fallible.modify_apply _ _),
        Fallible.bind_error hp.pluginMetadata_eq] at h
      cases h
      exact .bufferPluginFailed hst hrecv hclose hp
  | ok ps =>
      cases hc : b.sendClose with
      | false =>
          rw [bufferSend_open hc hp] at h
          cases h
          exact .buffered hst hrecv hc (hclose.resolve_left (by simp [hc])) hp
      | true =>
          rw [bufferSend_close hc hp] at h
          rcases Fallible.bind_inv h with ⟨_, w₂, hs, h⟩ | ⟨e, hs, rfl⟩
          · cases h
            exact .split hst hrecv hc hp (startStream_started hs)
          · exact .split hst hrecv hc hp (startStream_started hs)

theorem dispatchBatch_active_dispatched {b : BatchOps} {w w' : World} {st : ActiveStream}
    {r : Except PhpException BatchResult} (hb : b.Consistent)
    (hops : (b.hasSendOps || b.hasRecvOps) = true) (hst : w.call.streamState = some st)
    (h : dispatchBatch T env b w = (r, w')) : Dispatched T env b w r w' := by
  rw [dispatchBatch_active T env hb hops hst] at h
  rcases Fallible.bind_inv h with ⟨_, w₁, hf, h⟩ | ⟨e, hf, rfl⟩
  · have hfw := forward_forwarded hf
    cases hrecv : b.hasRecvOps with
    | false =>
        simp only [hrecv, Bool.false_eq_true, if_false, Fallible.pure_apply] at h
        cases h
        exact .forwarded hst hrecv hfw
    | true =>
        obtain ⟨st₁, hst₁⟩ : ∃ st₁, w₁.call.streamState = some st₁ := by
          cases hfw with | done _ => exact ⟨_, World.forwarded_streamState _ _ hst⟩
        rw [hrecv, if_pos rfl] at h
        cases hrt : env.runtime with
        | ok u =>
            rw [buildStreamResult_apply hst₁ hrt] at h
            cases h
            exact .read hst hrecv hfw hst₁ hrt
        | error text =>
            rw [buildStreamResult, Fallible.bind_error (getRuntime_error hrt w₁)] at h
            cases h
            -- a message would have raised the error before
            have hm : b.sendMessage = none := hfw.noMessage hrt
            rw [hm] at hfw
            cases hfw with | done _ => exact .notRead hst hrecv hm hrt
  · cases forward_forwarded hf with | failed hm hs => exact .notForwarded hst (.failed hm hs)

theorem dispatchRequest_dispatched {b : BatchOps} {w w₁ w' : World} {md ps : Pairs}
    {msg : Option Bytes} {r : Except PhpException BatchResult} (hst : w.call.streamState = none)
    (hrecv : b.hasRecvOps = true) (hq : Requested env b w md ps msg w₁)
    (h : dispatchRequest T env b md ps msg w₁ = (r, w')) : Dispatched T env b w r w' := by
  have unary : (b.recvMessage && b.recvStatus) = true ∨ w.call.sendClosed = false →
      unaryResult T env b md ps msg w₁ = (r, w') → Dispatched T env b w r w' := by
    intro hpat hu
    rcases Fallible.bind_inv hu with ⟨res, w₂, he, h⟩ | ⟨e, he, rfl⟩
    · cases h
      exact .unary hst hrecv hq hpat (executeCall_executed he)
    · exact .unary hst hrecv hq hpat (executeCall_executed he)
  unfold dispatchRequest at h
  cases hpat : b.recvMessage && b.recvStatus with
  | true =>
      simp only [hpat, if_true] at h
      exact unary (.inl hpat) h
  | false =>
      simp only [hpat, Bool.false_eq_true, if_false, Fallible.bind_apply,
        Fallible.gets_apply] at h
      cases hc : w.call.sendClosed with
      | false =>
          rw [hq.call_eq.2, hc] at h
          simp only [Bool.false_eq_true, if_false] at h
          exact unary (.inr hc) h
      | true =>
          rw [hq.call_eq.2, hc] at h
          simp only [if_true] at h
          rcases Fallible.bind_inv h with ⟨_, w₂, hs, h⟩ | ⟨e, hs, rfl⟩
          · have hs := startStream_started hs
            obtain ⟨st, hst₂⟩ := hs.streamState
            rw [buildStreamResult_apply hst₂ hs.runtime_eq] at h
            cases h
            exact .server hst hrecv hq hpat hc hs hst₂
          · exact .serverNotStarted hst hrecv hq hpat hc (startStream_started hs)

theorem dispatchFresh_dispatched {b : BatchOps} {w w' : World}
    {r : Except PhpException BatchResult} (hst : w.call.streamState = none)
    (hrecv : b.hasRecvOps = true) (h : dispatchFresh T env b w = (r, w')) :
    Dispatched T env b w r w' := by
  unfold dispatchFresh at h
  cases hsend : b.hasSendOps with
  | true =>
      simp only [hsend, if_true] at h
      rcases Fallible.bind_inv h with ⟨ps, w₁, hp, h⟩ | ⟨e, hp, rfl⟩
      · exact dispatchRequest_dispatched hst hrecv (.own hsend (pluginMetadata_ran hp)) h
      · exact .freshPluginFailed hst hrecv hsend (pluginMetadata_ran hp)
  | false =>
      simp only [hsend, Bool.false_eq_true, if_false, Fallible.bind_apply, Fallible.gets_apply,
        Fallible.modify_apply] at h
      exact dispatchRequest_dispatched hst hrecv (.buffered hsend) h

/-- **Inversion of `dispatch_batch`.** -/
theorem dispatchBatch_dispatched {b : BatchOps} {w w' : World}
    {r : Except PhpException BatchResult} (hb : b.Consistent)
    (hops : (b.hasSendOps || b.hasRecvOps) = true)
    (h : dispatchBatch T env b w = (r, w')) : Dispatched T env b w r w' := by
  cases hst : w.call.streamState with
  | some st => exact dispatchBatch_active_dispatched hb hops hst h
  | none =>
      cases hrecv : b.hasRecvOps with
      | true =>
          rw [dispatchBatch_fresh hst hrecv] at h
          exact dispatchFresh_dispatched hst hrecv h
      | false =>
          have hsend : b.hasSendOps = true := by simpa [hrecv] using hops
          have hbuffer : b.sendClose = true ∨ b.sendMessage = none →
              Dispatched T env b w r w' := by
            intro hclose
            rw [dispatchBatch_bufferSend hst hrecv hsend hclose] at h
            exact bufferSend_dispatched hst hrecv hclose h
          cases hclose : b.sendClose with
          | true => exact hbuffer (.inl hclose)
          | false =>
              cases hm : b.sendMessage with
              | none => exact hbuffer (.inr hm)
              | some m =>
                  rw [dispatchBatch_startWrite hst hrecv hsend hclose hm] at h
                  exact startWrite_dispatched hst hrecv hclose hm h

/-! ## The frame of a dispatch -/

theorem Requested.updates {b : BatchOps} {w w' : World} {md ps : Pairs} {msg : Option Bytes}
    (h : Requested env b w md ps msg w') : Updates w w' := by
  cases h with
  | own _ hp => exact hp.updates
  | buffered => exact Updates.refl.set rfl rfl

/-- **A dispatch is a sequence of updates**: it leaves the core of the call alone, and
what it logs is what it did to the outside. -/
theorem Dispatched.updates {b : BatchOps} {w w' : World} {r : Except PhpException BatchResult}
    (h : Dispatched T env b w r w') : Updates w w' := by
  have htake : Updates w w.takePendingMetadata := Updates.refl.set rfl rfl
  have hbuffer : Updates w (w.buffer b) := Updates.refl.set rfl rfl
  cases h with
  | notForwarded => exact .refl
  | forwarded _ _ hf => exact hf.updates
  | read _ _ hf _ => exact hf.updates.set rfl rfl
  | notRead => exact .forwarded w none b.sendClose
  | writePluginFailed _ _ _ _ hp => exact htake.trans hp.updates
  | writeNotStarted _ _ _ _ hp hs => exact (htake.trans hp.updates).trans hs.updates
  | write _ _ _ _ hp hs hsent =>
      exact ((htake.trans hp.updates).trans hs.updates).trans hsent.updates
  | bufferPluginFailed _ _ _ hp => exact hbuffer.trans hp.updates
  | buffered _ _ _ _ hp => exact (hbuffer.trans hp.updates).set rfl rfl
  | @split ps _ w₁ _ _ _ _ hp hs =>
      have htaken : Updates w (w₁.extendPending ps).takePendingMetadata.takePendingMessage :=
        (hbuffer.trans hp.updates).set rfl rfl
      exact htaken.trans hs.updates
  | freshPluginFailed _ _ _ hp => exact hp.updates
  | unary _ _ hq _ he => exact hq.updates.trans he.updates
  | serverNotStarted _ _ hq _ _ hs => exact hq.updates.trans hs.updates
  | server _ _ hq _ _ hs _ => exact (hq.updates.trans hs.updates).set rfl rfl

/-! ## The whole batch -/

/-- What the checks before the dispatch establish. -/
structure Admitted (c : GrpcCall) (ops : ZendHashTable) (b : BatchOps) : Prop where
  parsed : parseOps ops = .ok b
  hasOps : (b.hasSendOps || b.hasRecvOps) = true
  channelOpen : c.channelClosed = false
  notCancelled : c.cancelToken = false
  notFinished : c.finished = false
  firstMetadata : b.hasSendInitialMetadata = true → c.initialMetadataSent = false

/-- An admitted batch is consistent. -/
theorem Admitted.consistent {c : GrpcCall} {ops : ZendHashTable} {b : BatchOps}
    (h : Admitted c ops b) : b.Consistent := parseOps_consistent h.parsed

/-- What the checks let through is either admitted or has no operations. -/
theorem admission_cases {c : GrpcCall} {ops : ZendHashTable} {ob : Option BatchOps}
    (h : admission c ops = .ok ob) : ∃ b, parseOps ops = .ok b ∧
      (ob = none ∧ b.hasSendOps = false ∧ b.hasRecvOps = false
        ∨ ob = some b ∧ Admitted c ops b) := by
  unfold admission at h
  split at h
  · cases h
  · next hopen =>
    split at h
    · cases h
    · next hcancel =>
      cases hp : parseOps ops with
      | error e => simp [hp, bind, Except.bind] at h
      | ok b =>
          refine ⟨b, rfl, ?_⟩
          simp only [hp, bind, Except.bind] at h
          split at h
          · next hops =>
            cases h
            exact .inl ⟨rfl, by simpa using hops⟩
          · next hops =>
            split at h
            · cases h
            · next hfin =>
              split at h
              · cases h
              · next hmd =>
                cases h
                refine .inr ⟨rfl, hp, ?_, by simpa using hopen, by simpa using hcancel,
                  by simpa using hfin, fun hmd' ↦ by simpa [hmd'] using hmd⟩
                cases hs : b.hasSendOps <;> cases hr : b.hasRecvOps <;> simp_all

theorem admission_some {c : GrpcCall} {ops : ZendHashTable} {b : BatchOps}
    (h : admission c ops = .ok (some b)) : Admitted c ops b := by
  obtain ⟨b', -, ⟨hn, -⟩ | ⟨hs, ha⟩⟩ := admission_cases h
  · cases hn
  · cases hs
    exact ha

/-- A batch without operations. -/
theorem admission_none {c : GrpcCall} {ops : ZendHashTable} (h : admission c ops = .ok none) :
    ∃ b, parseOps ops = .ok b ∧ b.hasSendOps = false ∧ b.hasRecvOps = false := by
  obtain ⟨b, hp, ⟨-, hops⟩ | ⟨hs, -⟩⟩ := admission_cases h
  · exact ⟨b, hp, hops⟩
  · cases hs

/-- The checks let such a batch through. -/
theorem Admitted.admission_eq {c : GrpcCall} {ops : ZendHashTable} {b : BatchOps}
    (h : Admitted c ops b) : admission c ops = .ok (some b) := by
  have hops : (!b.hasSendOps && !b.hasRecvOps) = false := by
    rw [← Bool.not_or, h.hasOps]
    rfl
  have hmd : (b.hasSendInitialMetadata && c.initialMetadataSent) = false := by
    cases hb : b.hasSendInitialMetadata with
    | false => rfl
    | true => simpa using h.firstMetadata hb
  simp [admission, h.channelOpen, h.notCancelled, h.parsed, h.notFinished, hops, hmd, bind,
    Except.bind, pure, Except.pure]

theorem Admitted.mem_admitted {c : GrpcCall} {ops : ZendHashTable} {b : BatchOps}
    (h : Admitted c ops b) : b ∈ admitted c ops := by
  rw [admitted, h.admission_eq]; rfl

/-- **What one `startBatch` can do.** -/
inductive Batched (T : Tonic) (env : Env) (ops : ZendHashTable) (w : World) :
    Except PhpException BatchResult → World → Prop
  | /-- The checks before the dispatch rejected the batch. -/
    rejected {e : PhpException} (h : admission w.call ops = .error e) :
      Batched T env ops w (.error e) w
  | /-- The batch has no operations. -/
    empty (h : admission w.call ops = .ok none) : Batched T env ops w (.ok {}) w
  | /-- The dispatch threw; what it did to the call stays. -/
    raised {b : BatchOps} {e : PhpException} {w' : World} (h : Admitted w.call ops b)
      (hd : Dispatched T env b (w.mapCall (·.accept b)) (.error e) w') :
      Batched T env ops w (.error e) w'
  | /-- The dispatch returned. -/
    returned {b : BatchOps} {r : BatchResult} {w' : World} (h : Admitted w.call ops b)
      (hd : Dispatched T env b (w.mapCall (·.accept b)) (.ok r) w') :
      Batched T env ops w (.ok (r.ack b)) (w'.mapCall (·.finish b))

theorem startBatch_batched {ops : ZendHashTable} {w w' : World}
    {r : Except PhpException BatchResult} (h : startBatch T env ops w = (r, w')) :
    Batched T env ops w r w' := by
  simp only [startBatch, Fallible.bind_apply, Fallible.gets_apply, Fallible.lift_apply] at h
  cases ha : admission w.call ops with
  | error e =>
      rw [ha] at h
      cases h
      exact .rejected ha
  | ok ob =>
      cases ob with
      | none =>
          rw [ha] at h
          cases h
          exact .empty ha
      | some b =>
          have had := admission_some ha
          simp only [ha, Fallible.bind_apply, Fallible.modify_apply] at h
          match hd : dispatchBatch T env b (w.mapCall (·.accept b)) with
          | (.ok r₀, w₁) =>
              simp only [hd, Fallible.pure_apply] at h
              cases h
              exact .returned had (dispatchBatch_dispatched had.consistent had.hasOps hd)
          | (.error e, w₁) =>
              simp only [hd] at h
              cases h
              exact .raised had (dispatchBatch_dispatched had.consistent had.hasOps hd)

/-- **Inversion of a step of the PHP program** that is a batch. -/
theorem step_startBatch_cases (T : Tonic) (env : Env) (ops : ZendHashTable) (w : World) :
    ∃ r w', Batched T env ops w r w'
      ∧ step T w (.startBatch env ops) = World.settle ops (r, w') := by
  cases h : startBatch T env ops w with
  | mk r w' => exact ⟨r, w', startBatch_batched h, by simp only [step, h]⟩

end GrpcPhp
