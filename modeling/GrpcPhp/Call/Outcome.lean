import GrpcPhp.Call.Dispatch

/-!
# How a method can end

One relation for each method that can end in more than one way: `PluginRan`,
`Started`, `Sent`, `Forwarded` and `Executed`.  A constructor is an outcome; it names
the condition under which the method takes it and the world it leaves.  Nothing after
this file unfolds these methods.
-/

namespace GrpcPhp

open Lib Php

variable {T : Tonic} {env : Env}

/-! ## Observations of the updates -/

namespace World

variable (w : World) (f : GrpcCall → GrpcCall) (e : Event)

@[simp] theorem mapCall_call : (w.mapCall f).call = f w.call := rfl
@[simp] theorem emit_call : (w.emit e).call = w.call := rfl
@[simp] theorem setStream_call (st : ActiveStream) :
    (w.setStream st).call = { w.call with streamState := some st } := rfl
@[simp] theorem observe_mapCall {α : Type} (g : Event → List α) :
    (w.mapCall f).observe g = w.observe g := rfl

end World

namespace GrpcCall

variable (c : GrpcCall) (b : BatchOps)

@[simp] theorem accept_streamState : (c.accept b).streamState = c.streamState := rfl
@[simp] theorem accept_pendingMetadata : (c.accept b).pendingMetadata = c.pendingMetadata := rfl
@[simp] theorem accept_pendingMessage : (c.accept b).pendingMessage = c.pendingMessage := rfl
@[simp] theorem accept_callPlugin : (c.accept b).callPlugin = c.callPlugin := rfl
@[simp] theorem accept_method : (c.accept b).method = c.method := rfl
@[simp] theorem accept_deadlineUsec : (c.accept b).deadlineUsec = c.deadlineUsec := rfl
@[simp] theorem accept_sendClosed : (c.accept b).sendClosed = (c.sendClosed || b.sendClose) := rfl
@[simp] theorem finish_streamState : (c.finish b).streamState = c.streamState := rfl
@[simp] theorem finish_pendingMetadata : (c.finish b).pendingMetadata = c.pendingMetadata := rfl
@[simp] theorem finish_pendingMessage : (c.finish b).pendingMessage = c.pendingMessage := rfl
@[simp] theorem finish_callPlugin : (c.finish b).callPlugin = c.callPlugin := rfl
@[simp] theorem finish_finished : (c.finish b).finished = (c.finished || b.recvStatus) := rfl

end GrpcCall

/-! ## Updates

What the methods below do to a world is built from two kinds of update.  Frame
conditions are inductions over them. -/

/-- The part of a call that no dispatch touches: everything but the buffers, the stream
and the token. -/
def GrpcCall.core (c : GrpcCall) : GrpcCall :=
  { c with
    pendingMetadata := []
    pendingMessage := none
    streamState := none
    cancelToken := false }

/-- An event that records something done to the outside, not how a batch ended. -/
def Event.outward : Event → Bool
  | .plugin _ | .dispatch _ | .message _ => true
  | .returned _ _ | .raised _ => false

/-- A sequence of updates. -/
inductive Updates (w : World) : World → Prop
  | /-- No update. -/
    refl : Updates w w
  | /-- Something was done to the outside. -/
    emit {w' : World} (e : Event) (h : Updates w w') (he : e.outward = true) :
      Updates w (w'.emit e)
  | /-- The buffers, the stream, the token or the state of the channel changed. -/
    set {w' w'' : World} (h : Updates w w') (hcore : w''.call.core = w'.call.core)
      (hlog : w''.log = w'.log) : Updates w w''

namespace Updates

variable {w w' w'' : World}

theorem trans (h : Updates w w') (h' : Updates w' w'') : Updates w w'' := by
  induction h' with
  | refl => exact h
  | emit e _ he ih => exact ih.emit e he
  | set _ hcore hlog ih => exact ih.set hcore hlog

/-- Updates leave the core of the call alone. -/
theorem core_eq (h : Updates w w') : w'.call.core = w.call.core := by
  induction h with
  | refl => rfl
  | emit _ _ _ ih => exact ih
  | set _ hcore _ ih => exact hcore.trans ih

/-- An observation that ignores what is done to the outside sees no update. -/
theorem observe_eq {α : Type} {f : Event → List α} (hf : ∀ e, e.outward = true → f e = [])
    (h : Updates w w') : w'.observe f = w.observe f := by
  induction h with
  | refl => rfl
  | emit e _ he ih => rw [World.observe_emit, hf e he, List.append_nil, ih]
  | set _ _ hlog ih => rw [World.observe, hlog]; exact ih

/-- Observations only grow. -/
theorem observe_isPrefix {α : Type} (f : Event → List α) (h : Updates w w') :
    w.observe f <+: w'.observe f := by
  induction h with
  | refl => exact List.prefix_rfl
  | emit e _ _ ih =>
      rw [World.observe_emit]
      exact ih.trans (List.prefix_append _ _)
  | set _ _ hlog ih => rw [World.observe, World.observe, hlog]; exact ih

/-- The log only grows. -/
theorem log_isPrefix (h : Updates w w') : w.log <+: w'.log := by
  simpa [World.observe] using h.observe_isPrefix fun e ↦ [e]

theorem raises_eq (h : Updates w w') : w'.raises = w.raises :=
  h.observe_eq fun e he ↦ by cases e <;> first | rfl | cases he

theorem acked_eq (h : Updates w w') : w'.acked = w.acked :=
  h.observe_eq fun e he ↦ by cases e <;> first | rfl | cases he

theorem ackedMetadata_eq (h : Updates w w') : w'.ackedMetadata = w.ackedMetadata :=
  h.observe_eq fun e he ↦ by cases e <;> first | rfl | cases he

end Updates

/-! ## The runtime -/

/-- With a runtime, getting it does nothing. -/
theorem getRuntime_ok (h : env.runtime = .ok ()) (w : World) : getRuntime env w = (.ok (), w) := by
  simp [getRuntime, h, Except.mapError]

/-- Without one, nothing comes after. -/
theorem getRuntime_error {text : String} (h : env.runtime = .error text) (w : World) :
    getRuntime env w = (.error (noRuntime text), w) := by
  simp [getRuntime, h, Except.mapError]

/-- The two calls that stand before every dispatch. -/
theorem pump_ok {α : Type} {m : M α} (h : env.runtime = .ok ()) (w : World) :
    (getRuntime env >>= fun _ ↦ pump env >>= fun _ ↦ m) w = m w := by
  rw [Fallible.bind_ok (getRuntime_ok h w)]
  exact Fallible.bind_ok (getRuntime_ok h w)

/-- A dispatch gets as far as the request: there is a runtime, and the deadline has not
passed. -/
def Env.begins (env : Env) (deadlineUsec : I64) : Bool :=
  env.runtime.isOk && !deadlineAlreadyExpired deadlineUsec env.nowDispatch

theorem Env.begins_of_noRuntime {text : String} (h : env.runtime = .error text) (d : I64) :
    env.begins d = false := by
  simp [Env.begins, h, Except.isOk, Except.toBool]

/-- With a runtime, the deadline decides. -/
theorem Env.begins_of_runtime (h : env.runtime = .ok ()) (d : I64) :
    env.begins d = !deadlineAlreadyExpired d env.nowDispatch := by
  simp [Env.begins, h, Except.isOk, Except.toBool]

/-! ## The plugin -/

/-- How the plugin stage of a dispatch ends. -/
inductive PluginRan (env : Env) (w : World) : Except PhpException Pairs → World → Prop
  | /-- The call has no plugin. -/
    absent (h : w.call.callPlugin = none) : PluginRan env w (.ok []) w
  | /-- The invocation failed. -/
    failed {p : PluginRef} {e : GrpcError} (h : w.call.callPlugin = some p)
      (he : (env.plugin p w.call.method).pairs = .error e) : PluginRan env w (.error e.toPhp) w
  | /-- The plugin returned pairs. -/
    invoked {p : PluginRef} {ps : Pairs} (h : w.call.callPlugin = some p)
      (hps : (env.plugin p w.call.method).pairs = .ok ps) :
      PluginRan env w (.ok ps) (w.emit (.plugin ps))

/-- The relation determines the outcome. -/
theorem PluginRan.pluginMetadata_eq {w w' : World} {r : Except PhpException Pairs}
    (h : PluginRan env w r w') : pluginMetadata env w = (r, w') := by
  cases h with
  | absent h => simp [pluginMetadata, Fallible.bind_apply, h]
  | failed h he => simp [pluginMetadata, invokeCallPlugin, Fallible.bind_apply, h, he]
  | invoked h hps => simp [pluginMetadata, invokeCallPlugin, Fallible.bind_apply, h, hps]

theorem exists_pluginRan (env : Env) (w : World) : ∃ r w', PluginRan env w r w' := by
  cases hp : w.call.callPlugin with
  | none => exact ⟨_, _, .absent hp⟩
  | some p =>
      cases he : (env.plugin p w.call.method).pairs with
      | error e => exact ⟨_, _, .failed hp he⟩
      | ok ps => exact ⟨_, _, .invoked hp he⟩

theorem pluginMetadata_ran {w w' : World} {r : Except PhpException Pairs}
    (h : pluginMetadata env w = (r, w')) : PluginRan env w r w' := by
  obtain ⟨r₁, w₁, hran⟩ := exists_pluginRan env w
  rw [hran.pluginMetadata_eq] at h
  cases h
  exact hran

/-- Of the environment, the plugin stage sees the plugin. -/
theorem PluginRan.of_plugin (env' : Env) {w w' : World} {r : Except PhpException Pairs}
    (h : PluginRan env w r w') (he : env'.plugin = env.plugin) : PluginRan env' w r w' := by
  cases h with
  | absent h => exact .absent h
  | failed h herr => exact .failed h (he ▸ herr)
  | invoked h hps => exact .invoked h (he ▸ hps)

/-- The plugin stage is observed only through the plugin's event. -/
theorem PluginRan.observe_eq {α : Type} {f : Event → List α} (hf : ∀ ps, f (.plugin ps) = [])
    {w w' : World} {r : Except PhpException Pairs} (h : PluginRan env w r w') :
    w'.observe f = w.observe f := by
  cases h <;> simp [hf]

theorem PluginRan.updates {w w' : World} {r : Except PhpException Pairs}
    (h : PluginRan env w r w') : Updates w w' := by
  cases h with
  | absent => exact .refl
  | failed => exact .refl
  | invoked => exact Updates.refl.emit _ rfl

/-- The plugin stage does not touch the call. -/
theorem PluginRan.call_eq {w w' : World} {r : Except PhpException Pairs}
    (h : PluginRan env w r w') : w'.call = w.call := by
  cases h <;> rfl

/-! ## Starting a stream -/

/-- How starting a stream ends. -/
inductive Started (T : Tonic) (env : Env) (bidi : Bool) (rpc : I64 → Rpc) (w : World) :
    Except PhpException Unit → World → Prop
  | /-- There is no runtime. -/
    noRuntime {text : String} (h : env.runtime = .error text) :
      Started T env bidi rpc w (.error (noRuntime text)) w
  | /-- The deadline had passed: nothing is dispatched and the stub is installed. -/
    expired (h : deadlineAlreadyExpired w.call.deadlineUsec env.nowDispatch = true)
      (hrt : env.runtime = .ok ()) :
      Started T env bidi rpc w (.ok ()) (w.setStream expiredStreamState)
  | /-- The method is no path. -/
    badPath {e : String} (h : deadlineAlreadyExpired w.call.deadlineUsec env.nowDispatch = false)
      (hp : T.path w.call.method = .error e) (hrt : env.runtime = .ok ()) :
      Started T env bidi rpc w (.error (invalidPath e).toPhp) w
  | /-- A task was spawned. -/
    spawned (h : deadlineAlreadyExpired w.call.deadlineUsec env.nowDispatch = false)
      (hp : T.path w.call.method = .ok ()) (hrt : env.runtime = .ok ()) :
      Started T env bidi rpc w (.ok ())
        ((w.emit (.dispatch (rpc w.call.deadlineUsec))).setStream (spawnedStreamState bidi))

/-- The relation determines the outcome. -/
theorem Started.startStream_eq {bidi : Bool} {rpc : I64 → Rpc} {w w' : World}
    {r : Except PhpException Unit} (h : Started T env bidi rpc w r w') :
    startStream T env bidi rpc w = (r, w') := by
  unfold startStream
  cases h with
  | noRuntime hrt => exact Fallible.bind_error (getRuntime_error hrt w)
  | expired hx hrt => rw [pump_ok hrt]; simp [Fallible.bind_apply, hx]
  | badPath hx hp hrt => rw [pump_ok hrt]; simp [Fallible.bind_apply, hx, hp]
  | spawned hx hp hrt => rw [pump_ok hrt]; simp [Fallible.bind_apply, hx, hp]

theorem exists_started (T : Tonic) (env : Env) (bidi : Bool) (rpc : I64 → Rpc) (w : World) :
    ∃ r w', Started T env bidi rpc w r w' := by
  cases hrt : env.runtime with
  | error text => exact ⟨_, _, .noRuntime hrt⟩
  | ok u =>
      cases hx : deadlineAlreadyExpired w.call.deadlineUsec env.nowDispatch with
      | true => exact ⟨_, _, .expired hx hrt⟩
      | false =>
          cases hp : T.path w.call.method with
          | error e => exact ⟨_, _, .badPath hx hp hrt⟩
          | ok u => exact ⟨_, _, .spawned hx hp hrt⟩

theorem startStream_started {bidi : Bool} {rpc : I64 → Rpc} {w w' : World}
    {r : Except PhpException Unit} (h : startStream T env bidi rpc w = (r, w')) :
    Started T env bidi rpc w r w' := by
  obtain ⟨r₁, w₁, hs⟩ := exists_started T env bidi rpc w
  rw [hs.startStream_eq] at h
  cases h
  exact hs

/-- Starting a stream is observed only through the RPC it makes. -/
theorem Started.observe_eq {α : Type} {f : Event → List α} (hf : ∀ rpc, f (.dispatch rpc) = [])
    {bidi : Bool} {rpc : I64 → Rpc} {w w' : World} {r : Except PhpException Unit}
    (h : Started T env bidi rpc w r w') : w'.observe f = w.observe f := by
  cases h <;> simp [hf]

/-- Only with a runtime is a stream started. -/
theorem Started.runtime_eq {bidi : Bool} {rpc : I64 → Rpc} {w w' : World}
    (h : Started T env bidi rpc w (.ok ()) w') : env.runtime = .ok () := by
  cases h with
  | expired _ hrt | spawned _ _ hrt => exact hrt

theorem Started.updates {bidi : Bool} {rpc : I64 → Rpc} {w w' : World}
    {r : Except PhpException Unit} (h : Started T env bidi rpc w r w') : Updates w w' := by
  cases h with
  | noRuntime => exact .refl
  | expired => exact Updates.refl.set rfl rfl
  | badPath => exact .refl
  | spawned => exact (Updates.refl.emit _ rfl).set rfl rfl

/-! ## Sending on a stream -/

/-- How sending a message to the active stream ends. -/
inductive Sent (env : Env) (m : Bytes) (w : World) : Except PhpException Unit → World → Prop
  | /-- There is no runtime, no sender, or its queue is closed. -/
    failed {e : PhpException} (h : env.runtime = .ok () → ∀ st, w.call.streamState = some st →
      st.msgTx = true → env.sendOk = false) : Sent env m w (.error e) w
  | /-- The message is in the request queue. -/
    delivered {st : ActiveStream} (h : w.call.streamState = some st) (htx : st.msgTx = true)
      (hok : env.sendOk = true) (hrt : env.runtime = .ok ()) :
      Sent env m w (.ok ()) (w.emit (.message m))

theorem sendStreamMessage_sent {m : Bytes} {w w' : World} {r : Except PhpException Unit}
    (h : sendStreamMessage env m w = (r, w')) : Sent env m w r w' := by
  cases hrt : env.runtime with
  | error text =>
      rw [sendStreamMessage, Fallible.bind_error (getRuntime_error hrt w)] at h
      cases h
      exact .failed fun hok ↦ by simp [hrt] at hok
  | ok u =>
      rw [sendStreamMessage, Fallible.bind_ok (getRuntime_ok hrt w)] at h
      cases hs : w.call.streamState with
      | none =>
          simp only [Fallible.bind_apply, Fallible.gets_apply, hs, Fallible.throw_apply] at h
          cases h
          exact .failed fun _ st hst ↦ by simp [hs] at hst
      | some st =>
          cases htx : st.msgTx with
          | false =>
              simp only [Fallible.bind_apply, Fallible.gets_apply, hs, htx, Bool.not_false, if_true,
                Fallible.throw_apply] at h
              cases h
              refine .failed fun _ st' hst' htx' ↦ ?_
              rw [hs, Option.some.injEq] at hst'
              rw [← hst', htx] at htx'
              exact absurd htx' (by simp)
          | true =>
              cases hok : env.sendOk with
              | true =>
                  simp only [Fallible.bind_apply, Fallible.gets_apply, hs, htx, hok, Bool.not_true,
                    Bool.false_eq_true, if_false, if_true, Fallible.modify_apply] at h
                  cases h
                  exact .delivered hs htx hok hrt
              | false =>
                  simp only [Fallible.bind_apply, Fallible.gets_apply, hs, htx, hok, Bool.not_true,
                    Bool.false_eq_true, if_false, Fallible.throw_apply] at h
                  cases h
                  exact .failed fun _ _ _ _ ↦ hok

/-- Sending does not touch the call. -/
theorem Sent.call_eq {m : Bytes} {w w' : World} {r : Except PhpException Unit}
    (h : Sent env m w r w') : w'.call = w.call := by
  cases h <;> rfl

/-- Sending is observed only through the message. -/
theorem Sent.observe_eq {α : Type} {f : Event → List α} (hf : ∀ m, f (.message m) = [])
    {m : Bytes} {w w' : World} {r : Except PhpException Unit} (h : Sent env m w r w') :
    w'.observe f = w.observe f := by
  cases h <;> simp [hf]

theorem Sent.updates {m : Bytes} {w w' : World} {r : Except PhpException Unit}
    (h : Sent env m w r w') : Updates w w' := by
  cases h with
  | failed => exact .refl
  | delivered => exact Updates.refl.emit _ rfl

/-! ## Forwarding to the active stream -/

/-- `close_stream_send` on a world. -/
def World.closeSend (w : World) : World := w.mapCall fun c ↦
  { c with streamState := c.streamState.map fun st ↦ { st with msgTx := false } }

/-- The world after a message and a close have been forwarded. -/
def World.forwarded (w : World) (msg : Option Bytes) (close : Bool) : World :=
  let w := match msg with
    | some m => w.emit (.message m)
    | none => w
  if close then w.closeSend else w

/-- How forwarding to the active stream ends. -/
inductive Forwarded (env : Env) (msg : Option Bytes) (close : Bool) (w : World) :
    Except PhpException Unit → World → Prop
  | /-- The message could not be sent. -/
    failed {m : Bytes} {e : PhpException} (hm : msg = some m) (h : Sent env m w (.error e) w) :
      Forwarded env msg close w (.error e) w
  | /-- Message and close, as far as the batch has them, have been forwarded. -/
    done (h : ∀ m, msg = some m → Sent env m w (.ok ()) (w.emit (.message m))) :
      Forwarded env msg close w (.ok ()) (w.forwarded msg close)

theorem forward_forwarded {msg : Option Bytes} {close : Bool} {w w' : World}
    {r : Except PhpException Unit} (h : forward env msg close w = (r, w')) :
    Forwarded env msg close w r w' := by
  cases msg with
  | none =>
      have hw : (r, w') = (.ok (), w.forwarded none close) := by
        rw [← h]
        cases close <;> rfl
      cases hw
      exact .done fun m hm ↦ by simp at hm
  | some m =>
      cases hm : sendStreamMessage env m w with
      | mk r₁ w₁ =>
          have hs := sendStreamMessage_sent hm
          cases hs with
          | @failed e hf =>
              have hw : (r, w') = (.error e, w) := by
                rw [← h]
                exact Fallible.bind_error hm
              cases hw
              exact .failed rfl (.failed hf)
          | delivered h₁ h₂ h₃ h₄ =>
              have hw : (r, w') = (.ok (), w.forwarded (some m) close) := by
                rw [← h]
                refine (Fallible.bind_ok hm).trans ?_
                cases close <;> rfl
              cases hw
              refine .done fun m' hm' ↦ ?_
              cases hm'
              exact .delivered h₁ h₂ h₃ h₄

/-- Forwarding is observed only through the message it forwards. -/
theorem Forwarded.observe_eq {α : Type} {f : Event → List α} {msg : Option Bytes} {close : Bool}
    {w w' : World} (h : Forwarded env msg close w (.ok ()) w') :
    w'.observe f = w.observe f ++ msg.toList.flatMap fun m ↦ f (.message m) := by
  cases h with
  | done => cases msg <;> cases close <;> simp [World.forwarded, World.closeSend]

/-- A close is not logged. -/
@[simp] theorem World.observe_forwarded_none {α : Type} {f : Event → List α} {w : World}
    (close : Bool) : (w.forwarded none close).observe f = w.observe f := by
  cases close <;> rfl

/-- Without a runtime no message is forwarded. -/
theorem Forwarded.noMessage {msg : Option Bytes} {close : Bool} {w w' : World} {text : String}
    (h : Forwarded env msg close w (.ok ()) w') (hrt : env.runtime = .error text) :
    msg = none := by
  cases h with
  | done hsent =>
      cases msg with
      | none => rfl
      | some m => cases hsent m rfl with | delivered _ _ _ hok => simp [hrt] at hok

/-- Forwarding is a sequence of updates. -/
theorem Updates.forwarded (w : World) (msg : Option Bytes) (close : Bool) :
    Updates w (w.forwarded msg close) := by
  have hclose : ∀ w₁, Updates w w₁ → Updates w (if close then w₁.closeSend else w₁) := by
    intro w₁ h₁
    cases close with
    | false => exact h₁
    | true => exact h₁.set rfl rfl
  cases msg with
  | none => exact hclose _ .refl
  | some m => exact hclose _ (Updates.refl.emit _ rfl)

theorem Forwarded.updates {msg : Option Bytes} {close : Bool} {w w' : World}
    {r : Except PhpException Unit} (h : Forwarded env msg close w r w') : Updates w w' := by
  cases h with
  | failed => exact .refl
  | done => exact .forwarded w msg close

/-! ## The unary call -/

/-- Record the connectivity state a unary call implies. -/
def World.recordOutcome (w : World) (result : Except GrpcError CallResult) : World :=
  if w.call.channelShared then { w with connectivity := connectivityAfter result } else w

/-- How a unary call ends. -/
inductive Executed (T : Tonic) (env : Env) (md plugin : Pairs) (msg : Option Bytes) (w : World) :
    Except PhpException CallResult → World → Prop
  | /-- There is no runtime. -/
    noRuntime {text : String} (h : env.runtime = .error text) :
      Executed T env md plugin msg w (.error (noRuntime text)) w
  | /-- The deadline had passed: nothing is dispatched. -/
    expired (h : deadlineAlreadyExpired w.call.deadlineUsec env.nowDispatch = true)
      (hrt : env.runtime = .ok ()) : Executed T env md plugin msg w (.ok .deadlineExceeded) w
  | /-- The method is no path. -/
    badPath {e : String} (h : deadlineAlreadyExpired w.call.deadlineUsec env.nowDispatch = false)
      (hp : T.path w.call.method = .error e) (hrt : env.runtime = .ok ()) :
      Executed T env md plugin msg w (.error (invalidPath e).toPhp)
        (w.recordOutcome (.error (invalidPath e)))
  | /-- The race was run. -/
    raced (h : deadlineAlreadyExpired w.call.deadlineUsec env.nowDispatch = false)
      (hp : T.path w.call.method = .ok ()) (hrt : env.runtime = .ok ()) :
      Executed T env md plugin msg w
        ((env.unary.result T w.call.deadlineUsec env.nowStatus).mapError GrpcError.toPhp)
        ((env.unary.effect (buildRequest T env md plugin (msg.getD []) w.call.deadlineUsec)
          w).recordOutcome (env.unary.result T w.call.deadlineUsec env.nowStatus))

namespace World

variable (w : World) (result : Except GrpcError CallResult)

@[simp] theorem recordOutcome_call : (w.recordOutcome result).call = w.call := by
  unfold recordOutcome; split <;> rfl

@[simp] theorem observe_recordOutcome {α : Type} (f : Event → List α) :
    (w.recordOutcome result).observe f = w.observe f := by
  unfold recordOutcome; split <;> rfl

end World

/-- The race is observed exactly when it made its RPC. -/
theorem UnaryOutcome.observe_effect {α : Type} (f : Event → List α) (request : Request Bytes)
    (outcome : UnaryOutcome) (w : World) :
    (outcome.effect request w).observe f = w.observe f ++
      if outcome.dispatched then f (.dispatch (.unary request)) else [] := by
  cases outcome <;> simp [UnaryOutcome.effect, UnaryOutcome.dispatched, World.observe, World.emit]

@[simp] theorem UnaryOutcome.effect_channelShared (request : Request Bytes)
    (outcome : UnaryOutcome) (w : World) :
    (outcome.effect request w).call.channelShared = w.call.channelShared := by
  cases outcome <;> rfl

/-- A unary call is observed only through the RPC it makes. -/
theorem Executed.observe_eq {α : Type} {f : Event → List α}
    (hf : ∀ rpc, f (.dispatch rpc) = []) {md ps : Pairs} {msg : Option Bytes} {w w' : World}
    {r : Except PhpException CallResult} (h : Executed T env md ps msg w r w') :
    w'.observe f = w.observe f := by
  cases h <;> simp [UnaryOutcome.observe_effect, hf]

theorem Executed.updates {md ps : Pairs} {msg : Option Bytes} {w w' : World}
    {r : Except PhpException CallResult} (h : Executed T env md ps msg w r w') :
    Updates w w' := by
  have hrecord : ∀ w₁ result, Updates w w₁ → Updates w (w₁.recordOutcome result) := by
    intro w₁ result h₁
    unfold World.recordOutcome
    split
    · exact h₁.set rfl rfl
    · exact h₁
  have hemit : ∀ request, Updates w (w.emit (.dispatch (.unary request))) :=
    fun _ ↦ Updates.refl.emit _ rfl
  cases h with
  | noRuntime => exact .refl
  | expired => exact .refl
  | badPath => exact hrecord _ _ .refl
  | raced =>
      refine hrecord _ _ ?_
      cases env.unary with
      | readyError text => exact .refl
      | readyElapsed => exact .refl
      | deadline => exact hemit _
      | response md body => exact hemit _
      | status st => exact hemit _
      | cancelled => exact (hemit _).set rfl rfl

/-- The relation determines the outcome. -/
theorem Executed.executeCall_eq {md ps : Pairs} {msg : Option Bytes} {w w' : World}
    {r : Except PhpException CallResult} (h : Executed T env md ps msg w r w') :
    executeCall T env md ps msg w = (r, w') := by
  unfold executeCall
  cases h with
  | noRuntime hrt => exact Fallible.bind_error (getRuntime_error hrt w)
  | expired hx hrt => rw [pump_ok hrt]; simp [Fallible.bind_apply, hx]
  | badPath hx hp hrt =>
      rw [pump_ok hrt]
      simp only [Fallible.bind_apply, Fallible.gets_apply, hx, hp, Bool.false_eq_true,
        if_false, Fallible.pure_apply, World.recordOutcome]
      cases w.call.channelShared <;> rfl
  | raced hx hp hrt =>
      rw [pump_ok hrt]
      simp only [Fallible.bind_apply, Fallible.gets_apply, hx, hp, Bool.false_eq_true,
        if_false, Fallible.modify_apply, Fallible.pure_apply, World.recordOutcome,
        UnaryOutcome.effect_channelShared]
      cases w.call.channelShared <;> rfl

theorem exists_executed (T : Tonic) (env : Env) (md ps : Pairs) (msg : Option Bytes) (w : World) :
    ∃ r w', Executed T env md ps msg w r w' := by
  cases hrt : env.runtime with
  | error text => exact ⟨_, _, .noRuntime hrt⟩
  | ok u =>
      cases hx : deadlineAlreadyExpired w.call.deadlineUsec env.nowDispatch with
      | true => exact ⟨_, _, .expired hx hrt⟩
      | false =>
          cases hp : T.path w.call.method with
          | error e => exact ⟨_, _, .badPath hx hp hrt⟩
          | ok u => exact ⟨_, _, .raced hx hp hrt⟩

theorem executeCall_executed {md ps : Pairs} {msg : Option Bytes} {w w' : World}
    {r : Except PhpException CallResult} (h : executeCall T env md ps msg w = (r, w')) :
    Executed T env md ps msg w r w' := by
  obtain ⟨r₁, w₁, he⟩ := exists_executed T env md ps msg w
  rw [he.executeCall_eq] at h
  cases h
  exact he

end GrpcPhp
