import GrpcPhp.Call.Dispatch
import GrpcPhp.Lib.Respects

/-!
# No call looks at its channel

The methods of a call record the connectivity state of its channel and never read it.  So
what a call does depends on the call and not on what the other calls of the channel have
done: from two worlds that are alike but for that state, every method returns the same and
leaves worlds that are alike again.
-/

namespace GrpcPhp

open Lib Php Fallible

variable {T : Tonic} {env : Env}

/-- Two worlds with the same call and the same log. -/
structure World.Alike (w w' : World) : Prop where
  call : w.call = w'.call
  log : w.log = w'.log

namespace World.Alike

variable {w w' : World}

theorem trans {w'' : World} (h : w.Alike w') (h' : w'.Alike w'') : w.Alike w'' :=
  ⟨h.call.trans h'.call, h.log.trans h'.log⟩

theorem emit (h : w.Alike w') (e : Event) : (w.emit e).Alike (w'.emit e) :=
  ⟨h.call, congrArg (· ++ [e]) h.log⟩

theorem mapCall (h : w.Alike w') (f : GrpcCall → GrpcCall) : (w.mapCall f).Alike (w'.mapCall f) :=
  ⟨congrArg f h.call, h.log⟩

end World.Alike

/-! ## The dispatch -/

/-- Reading the call. -/
theorem respects_call {α : Type} (f : GrpcCall → α) :
    (gets fun w ↦ f w.call : M α).Respects World.Alike :=
  respects_gets fun _ _ h ↦ congrArg f h.call

/-- Updating the call. -/
theorem respects_mapCall (f : GrpcCall → GrpcCall) :
    (modify fun w ↦ w.mapCall f : M PUnit).Respects World.Alike :=
  respects_modify fun _ _ h ↦ h.mapCall f

/-- Installing a stream. -/
theorem respects_setStream (st : ActiveStream) :
    (modify (·.setStream st) : M PUnit).Respects World.Alike :=
  respects_mapCall fun c ↦ { c with streamState := some st }

/-- Logging. -/
theorem respects_emit (e : Event) : (modify (·.emit e) : M PUnit).Respects World.Alike :=
  respects_modify fun _ _ h ↦ h.emit e

/-- Getting the runtime. -/
theorem respects_getRuntime : (getRuntime env).Respects World.Alike := respects_lift _

/-- Getting the runtime and letting the tasks run, before a dispatch. -/
theorem respects_pump {α : Type} {m : M α} (h : m.Respects World.Alike) :
    (getRuntime env >>= fun _ ↦ pump env >>= fun _ ↦ m).Respects World.Alike :=
  respects_getRuntime.bind fun _ ↦ respects_getRuntime.bind fun _ ↦ h

theorem respects_pluginMetadata : (pluginMetadata env).Respects World.Alike := by
  refine (respects_call GrpcCall.callPlugin).bind fun plugin ↦ ?_
  cases plugin with
  | none => exact respects_pure _
  | some p =>
      refine (respects_call GrpcCall.method).bind fun method ↦ ?_
      split
      · exact respects_throw _
      · exact (respects_emit _).bind fun _ ↦ respects_pure _

theorem respects_startStream (bidi : Bool) (rpc : I64 → Rpc) :
    (startStream T env bidi rpc).Respects World.Alike := by
  refine respects_pump ((respects_call id).bind fun c ↦ .ite (respects_setStream _) ?_)
  split
  · exact respects_throw _
  · exact (respects_emit _).bind fun _ ↦ respects_setStream _

theorem respects_sendStreamMessage (m : Bytes) :
    (sendStreamMessage env m).Respects World.Alike := by
  refine respects_getRuntime.bind fun _ ↦ (respects_call GrpcCall.streamState).bind fun st ↦ ?_
  cases st with
  | none => exact respects_throw _
  | some st => exact .ite (respects_throw _) (.ite (respects_emit _) (respects_throw _))

/-- The unary race records the state of the channel, and nothing reads it. -/
theorem respects_executeCall (md ps : Pairs) (msg : Option Bytes) :
    (executeCall T env md ps msg).Respects World.Alike := by
  refine respects_pump ((respects_call id).bind fun c ↦ .ite (respects_pure _) ?_)
  have hrecord (result : Except GrpcError CallResult) : Respects World.Alike (do
      if c.channelShared then
        modify fun w : World ↦ { w with connectivity := connectivityAfter result }
      lift (result.mapError GrpcError.toPhp) : M CallResult) := by
    split
    · exact (respects_modify fun _ _ h ↦ ⟨h.call, h.log⟩).bind fun _ ↦ respects_lift _
    · exact respects_lift _
  have heffect (request : Request Bytes) :
      (modify (env.unary.effect request) : M PUnit).Respects World.Alike := by
    refine respects_modify fun w w' h ↦ ?_
    unfold UnaryOutcome.effect
    dsimp only
    have hw : (if env.unary.dispatched then w.emit (.dispatch (.unary request)) else w).Alike
        (if env.unary.dispatched then w'.emit (.dispatch (.unary request)) else w') := by
      split
      · exact h.emit _
      · exact h
    split
    · exact hw.mapCall fun c ↦ { c with cancelToken := true }
    · exact hw
  dsimp only [id]
  split
  · exact hrecord _
  · exact (heffect _).bind fun _ ↦ hrecord _

theorem respects_buildStreamResult (b : BatchOps) :
    (buildStreamResult T env b).Respects World.Alike := by
  refine respects_getRuntime.bind fun _ ↦ (respects_call id).bind fun c ↦ ?_
  dsimp only [id]
  split
  · exact respects_throw _
  · exact (respects_setStream _).bind fun _ ↦ respects_pure _

theorem respects_closeStreamSend : closeStreamSend.Respects World.Alike :=
  respects_mapCall fun c ↦
    { c with streamState := c.streamState.map fun st ↦ { st with msgTx := false } }

theorem respects_forward (msg : Option Bytes) (close : Bool) :
    (forward env msg close).Respects World.Alike := by
  have hclose : Respects World.Alike (if close = true then closeStreamSend else pure PUnit.unit) :=
    .ite respects_closeStreamSend (respects_pure _)
  cases msg with
  | none => exact hclose
  | some m => exact (respects_sendStreamMessage m).bind fun _ ↦ hclose

theorem respects_startWrite (b : BatchOps) : (startWrite T env b).Respects World.Alike := by
  refine (respects_call GrpcCall.pendingMetadata).bind fun md ↦ (respects_mapCall _).bind fun _ ↦ ?_
  refine respects_pluginMetadata.bind fun ps ↦ (respects_startStream _ _).bind fun _ ↦ ?_
  dsimp only
  split
  · exact (respects_sendStreamMessage _).bind fun _ ↦ respects_pure _
  · exact respects_pure _

/-- Taking both buffers. -/
theorem respects_takePending :
    (modify fun w ↦ w.takePendingMetadata.takePendingMessage : M PUnit).Respects World.Alike :=
  respects_modify fun _ _ h ↦ (h.mapCall _).mapCall _

theorem respects_bufferSend (b : BatchOps) : (bufferSend T env b).Respects World.Alike := by
  refine (respects_mapCall _).bind fun _ ↦ respects_pluginMetadata.bind fun ps ↦ ?_
  refine (respects_mapCall _).bind fun _ ↦ .ite ?_ (respects_pure _)
  refine (respects_call id).bind fun c ↦ respects_takePending.bind fun _ ↦ ?_
  exact (respects_startStream _ _).bind fun _ ↦ respects_pure _

theorem respects_dispatchRequest (b : BatchOps) (md ps : Pairs) (msg : Option Bytes) :
    (dispatchRequest T env b md ps msg).Respects World.Alike := by
  have hunary : (unaryResult T env b md ps msg).Respects World.Alike :=
    (respects_executeCall md ps msg).bind fun _ ↦ respects_pure _
  refine .ite hunary ((respects_call GrpcCall.sendClosed).bind fun closed ↦ .ite ?_ hunary)
  exact (respects_startStream _ _).bind fun _ ↦ respects_buildStreamResult _

theorem respects_dispatchBatch (b : BatchOps) : (dispatchBatch T env b).Respects World.Alike := by
  refine .ite ?_ ((respects_call GrpcCall.streamState).bind fun st ↦ .ite ?_ (.ite ?_ ?_))
  · refine (respects_call GrpcCall.streamState).bind fun st ↦
      .ite ?_ (.ite (respects_startWrite b) (respects_bufferSend b))
    exact (respects_forward _ _).bind fun _ ↦ respects_pure _
  · exact (respects_forward _ _).bind fun _ ↦ respects_buildStreamResult b
  · exact respects_pluginMetadata.bind fun _ ↦ respects_dispatchRequest _ _ _ _
  · exact (respects_call id).bind fun _ ↦ respects_takePending.bind fun _ ↦
      respects_dispatchRequest _ _ _ _

theorem respects_startBatch (ops : ZendHashTable) :
    (startBatch T env ops).Respects World.Alike := by
  refine (respects_call id).bind fun c ↦ (respects_lift _).bind fun batch ↦ ?_
  cases batch with
  | none => exact respects_pure _
  | some b =>
      refine (respects_mapCall _).bind fun _ ↦ (respects_dispatchBatch b).bind fun r ↦ ?_
      exact (respects_mapCall _).bind fun _ ↦ respects_pure _

namespace World.Alike

variable {w w' : World}

/-- The end of a batch. -/
theorem settle {p p' : Except PhpException BatchResult × World} (hres : p.1 = p'.1)
    (h : p.2.Alike p'.2) (ops : ZendHashTable) : (settle ops p).Alike (settle ops p') := by
  obtain ⟨r, v⟩ := p
  obtain ⟨r', v'⟩ := p'
  cases hres
  cases r with
  | ok r => exact h.emit _
  | error e => exact h.emit _

/-- **What a call does does not depend on the state of its channel.** -/
theorem step (h : w.Alike w') (a : Action) : (GrpcPhp.step T w a).Alike (GrpcPhp.step T w' a) := by
  cases a with
  | startBatch env ops =>
      have hrespects : (startBatch T env ops).Respects Alike := respects_startBatch ops
      obtain ⟨hres, hstate⟩ := hrespects w w' h
      exact settle hres hstate ops
  | setCredentials plugin => exact h.mapCall fun c ↦ { c with callPlugin := some plugin }
  | cancel => exact h.mapCall fun c ↦ { c with cancelToken := true }
  | closeChannel => exact h.mapCall fun c ↦ { c with channelClosed := true }

end World.Alike

end GrpcPhp
