import GrpcPhp.Call.State

/-!
# The methods of a call

The bodies of `call.rs` below `dispatch_batch`: plugin invocation, request building,
the unary call, the start of a stream, sending, and building the result object from
a stream.  Whatever a method gets from outside while it runs (the tokio runtime, clock
readings, the plugin's behaviour, the outcome of the unary race, what a channel yields)
is read from an `Env`, one for each call of `startBatch`; all results quantify over it.
-/

namespace GrpcPhp

open Lib Php

/-! ## The environment of one batch -/

/-- What invoking a stored plugin callable can do. -/
inductive PluginOutcome where
  /-- The credentials object holds no callable. -/
  | notSet
  /-- The stored value is not callable. -/
  | notCallable
  /-- The callable threw: class name and message. -/
  | threw (cls message : String)
  /-- The call itself failed; the text of the error. -/
  | failed (text : String)
  /-- The callable returned a value. -/
  | returned (value : Zval)

/-- How the unary race of `execute_call` ends. -/
inductive UnaryOutcome where
  /-- `ready()` failed; the text of the transport error. -/
  | readyError (text : String)
  /-- The deadline passed before `ready()`. -/
  | readyElapsed
  /-- The deadline passed while the call was running. -/
  | deadline
  /-- The call answered with response metadata and a message. -/
  | response (metadata : MetadataMap) (body : Bytes)
  /-- The call answered with a status. -/
  | status (status : Status)
  /-- The cancellation token fired while the call was running. -/
  | cancelled
deriving DecidableEq

/-- What the outside answers during one `startBatch`. -/
structure Env where
  /-- What `get_runtime` gives.  It does so each time it is called in the batch: after a failure
  the batch is over, and a runtime that is there stays (`GrpcPhp/Process/Runtime.lean`). -/
  runtime : Except String Unit
  /-- The clock when the dispatch checks the deadline. -/
  nowDispatch : I64
  /-- The clock when the request timeout is computed. -/
  nowRequest : I64
  /-- The clock when a status is converted. -/
  nowStatus : I64
  /-- The plugin, applied to its handle and the method name. -/
  plugin : PluginRef → String → PluginOutcome
  /-- The unary race. -/
  unary : UnaryOutcome
  /-- Whether the request queue is still open when a message is sent. -/
  sendOk : Bool
  /-- What awaiting the headers receiver gives. -/
  headers : Option MetadataMap
  /-- What the response queue yields; `none` when it is closed. -/
  item : Option Item
  /-- What the drain loop gives; `none` when the trailers sender was dropped. -/
  trailers : Option StreamTrailers

/-- An uneventful environment: nothing has expired, the plugin adds nothing, and the
server answers with empty headers, one empty message and an empty OK status. -/
def Env.calm : Env where
  runtime := .ok ()
  nowDispatch := .one
  nowRequest := .one
  nowStatus := .one
  plugin _ _ := .returned (.array [])
  unary := .response [] []
  sendOk := true
  headers := some []
  item := some (.ok (some []))
  trailers := some ⟨0, "", []⟩

variable (T : Tonic) (env : Env)

/-! ## The runtime -/

/-- The error of a runtime that cannot be made. -/
def noRuntime (text : String) : PhpException := (GrpcError.runtimeInit text).toPhp

/-- `get_runtime`, as the methods use it. -/
def getRuntime : M Unit := Fallible.lift (env.runtime.mapError noRuntime)

/-- `pump`, which gets the runtime and lets the tasks run for a moment. -/
def pump : M Unit := getRuntime env

/-! ## Plugin -/

/-- The result of `invoke_call_plugin` for each behaviour of the callable. -/
def PluginOutcome.pairs : PluginOutcome → Except GrpcError Pairs
  | .notSet => .error (.callbackFailed "plugin callable is not set")
  | .notCallable => .error (.callbackFailed "stored value is not callable")
  | .threw cls message =>
      .error (.callbackFailed ("plugin threw " ++ cls ++ ": " ++ message))
  | .failed text => .error (.callbackFailed text)
  | .returned value => .ok (match value.array? with
      | some ht => parseMetadata ht
      | none => [])

/-- `invoke_call_plugin`. -/
def invokeCallPlugin (plugin : PluginRef) : M Pairs := do
  let method ← Fallible.gets fun w ↦ w.call.method
  match (env.plugin plugin method).pairs with
  | .error e => Fallible.throw e.toPhp
  | .ok pairs => do
    Fallible.modify (·.emit (.plugin pairs))
    pure pairs

/-- The `if let Some(ref plugin) = self.call_plugin` around every invocation. -/
def pluginMetadata : M Pairs := do
  match ← Fallible.gets fun w ↦ w.call.callPlugin with
  | none => pure []
  | some plugin => invokeCallPlugin env plugin

/-! ## Requests -/

/-- `build_request`, also the request building of `execute_call` and, with the request
queue for a body, of `start_bidi_stream`. -/
def buildRequest {β : Type} (sendMetadata pluginMetadata : Pairs) (message : β)
    (deadlineUsec : I64) : Request β where
  message := message
  metadata := requestMetadata T sendMetadata pluginMetadata
  timeout := requestTimeout deadlineUsec env.nowRequest

/-- The result of a unary call whose deadline passed. -/
def CallResult.deadlineExceeded : CallResult := ⟨none, none, some [], 4, "Deadline Exceeded"⟩

/-- The result of the unary race, once the path is valid. -/
def UnaryOutcome.result (deadlineUsec now : I64) : UnaryOutcome → Except GrpcError CallResult
  | .readyError text => .error (.transport text)
  | .readyElapsed | .deadline => .ok .deadlineExceeded
  | .response metadata body => .ok ⟨some metadata, some body, none, 0, ""⟩
  | .status st =>
      let p := statusToPhp st deadlineUsec now
      .ok ⟨none, none, some (statusMetadataForPhp T st), p.1, p.2⟩
  | .cancelled => .error (.status 1 "Call cancelled")

/-- Whether the race got as far as `grpc_client.unary`. -/
def UnaryOutcome.dispatched : UnaryOutcome → Bool
  | .readyError _ | .readyElapsed => false
  | _ => true

/-- The connectivity state recorded for the outcome of a unary call. -/
def connectivityAfter : Except GrpcError CallResult → ChannelState
  | .ok r => if r.code = 14 then .transientFailure else .ready
  | .error _ => .transientFailure

/-- The error of an invalid method path. -/
def invalidPath (e : String) : GrpcError := .invalidArg ("invalid method path: " ++ e)

/-- The effect of the race on the world: the RPC if it was made, and the token if that
is what ended it. -/
def UnaryOutcome.effect (request : Request Bytes) (outcome : UnaryOutcome) (w : World) : World :=
  let w := if outcome.dispatched then w.emit (.dispatch (.unary request)) else w
  match outcome with
  | .cancelled => { w with call := { w.call with cancelToken := true } }
  | _ => w

/-- `execute_call`. -/
def executeCall (sendMetadata pluginMetadata : Pairs) (sendMessage : Option Bytes) :
    M CallResult := do
  getRuntime env
  pump env
  let c ← Fallible.gets World.call
  if deadlineAlreadyExpired c.deadlineUsec env.nowDispatch then
    pure .deadlineExceeded
  else do
    let result ← match T.path c.method with
      | .error e => pure (.error (invalidPath e))
      | .ok () => do
        let request := buildRequest T env sendMetadata pluginMetadata (sendMessage.getD [])
          c.deadlineUsec
        Fallible.modify (env.unary.effect request)
        pure (env.unary.result T c.deadlineUsec env.nowStatus)
    if c.channelShared then
      Fallible.modify fun w ↦ { w with connectivity := connectivityAfter result }
    Fallible.lift (result.mapError GrpcError.toPhp)

/-- `build_unary_result`. -/
def buildUnaryResult (recvInitialMetadata recvMessage recvStatus : Bool) (result : CallResult) :
    BatchResult where
  metadata := if recvInitialMetadata then
      some (match result.initialMetadata with
        | some md => metadataToPhp T md
        | none => [])
    else none
  message := if recvMessage then some result.body else none
  status := if recvStatus then
      some ⟨match result.trailingMetadata with
        | some md => metadataToPhp T md
        | none => [], result.code, result.message⟩
    else none

/-! ## Streams -/

/-- `start_server_stream` and `start_bidi_stream`, which differ in the RPC the task
runs and in the request sender. -/
def startStream (bidi : Bool) (rpc : I64 → Rpc) : M Unit := do
  getRuntime env
  pump env
  let c ← Fallible.gets World.call
  if deadlineAlreadyExpired c.deadlineUsec env.nowDispatch then
    Fallible.modify (·.setStream expiredStreamState)
  else match T.path c.method with
    | .error e => Fallible.throw (invalidPath e).toPhp
    | .ok () => do
      Fallible.modify (·.emit (.dispatch (rpc c.deadlineUsec)))
      Fallible.modify (·.setStream (spawnedStreamState bidi))

/-- `start_server_stream`. -/
def startServerStream (sendMetadata pluginMetadata : Pairs) (sendMessage : Option Bytes) :
    M Unit :=
  startStream T env false fun deadlineUsec ↦ .serverStreaming
    (buildRequest T env sendMetadata pluginMetadata (sendMessage.getD []) deadlineUsec)

/-- `start_bidi_stream`. -/
def startBidiStream (sendMetadata pluginMetadata : Pairs) : M Unit :=
  startStream T env true fun deadlineUsec ↦ .streaming
    (buildRequest T env sendMetadata pluginMetadata () deadlineUsec)

/-- `send_stream_message`. -/
def sendStreamMessage (message : Bytes) : M Unit := do
  getRuntime env
  match ← Fallible.gets fun w ↦ w.call.streamState with
  | none => Fallible.throw (.default "no active stream")
  | some st =>
    if !st.msgTx then Fallible.throw (.default "stream does not support sending")
    else if env.sendOk then Fallible.modify (·.emit (.message message))
    else Fallible.throw (.default "stream send channel closed")

/-- `close_stream_send`. -/
def closeStreamSend : M Unit := Fallible.modify fun w ↦
  { w with call := { w.call with
      streamState := w.call.streamState.map fun st ↦ { st with msgTx := false } } }

namespace ActiveStream

/-- Whether `RECV_INITIAL_METADATA` has to wait for the headers. -/
def awaitsHeaders (st : ActiveStream) : Bool := st.initialMetadata.isNone && st.metaRx

/-- The `RECV_INITIAL_METADATA` part of `build_stream_result`, where awaiting the
headers gave `answer`. -/
def recvInitialMetadata (answer : Option MetadataMap) (st : ActiveStream) :
    MetadataEntries × ActiveStream :=
  let st := if st.awaitsHeaders then { st with metaRx := false, initialMetadata := answer }
    else st
  (match st.initialMetadata with
    | some md => metadataToPhp T md
    | none => [], { st with initialMetadata := none })

/-- The `RECV_MESSAGE` part, where the response queue yielded `answer`. -/
def recvMessage (deadlineUsec now : I64) (answer : Option Item) (st : ActiveStream) :
    Option Bytes × ActiveStream :=
  if st.cachedTrailers.isSome then (none, st)
  else match if st.driven then answer else none with
    | some (.ok (some bytes)) => (some bytes, st)
    | some (.ok none) | none => (none, st)
    | some (.error status) =>
        (none, { st with cachedTrailers := some (.ofStatus T status deadlineUsec now) })

/-- Reported when the task dropped the trailers sender. -/
def terminatedUnexpectedly : StreamTrailers := ⟨2, "stream task terminated unexpectedly", []⟩

/-- Reported when the trailers were already taken. -/
def alreadyConsumed : StreamTrailers := ⟨2, "stream already consumed", []⟩

/-- The `RECV_STATUS_ON_CLIENT` part, where the drain loop gave `answer`. -/
def recvStatus (answer : Option StreamTrailers) (st : ActiveStream) :
    StreamTrailers × ActiveStream :=
  match st.cachedTrailers with
  | some cached => (cached, { st with cachedTrailers := none })
  | none =>
      if st.trailersRx then (answer.getD terminatedUnexpectedly, { st with trailersRx := false })
      else (alreadyConsumed, st)

end ActiveStream

/-- The `status` property built from trailers. -/
def StreamTrailers.toPhp (t : StreamTrailers) : PhpStatus :=
  ⟨metadataToPhp T t.metadata, t.code, t.message⟩

/-- The headers part of the result object. -/
def headersStage (answer : Option MetadataMap) (batch : BatchOps)
    (p : BatchResult × ActiveStream) : BatchResult × ActiveStream :=
  if batch.recvInitialMetadata then
    let q := p.2.recvInitialMetadata T answer
    ({ p.1 with metadata := some q.1 }, q.2)
  else p

/-- The message part of the result object. -/
def messageStage (deadlineUsec now : I64) (answer : Option Item) (batch : BatchOps)
    (p : BatchResult × ActiveStream) : BatchResult × ActiveStream :=
  if batch.recvMessage then
    let q := p.2.recvMessage T deadlineUsec now answer
    ({ p.1 with message := some q.1 }, q.2)
  else p

/-- The status part of the result object. -/
def statusStage (answer : Option StreamTrailers) (batch : BatchOps)
    (p : BatchResult × ActiveStream) : BatchResult × ActiveStream :=
  if batch.recvStatus then
    let q := p.2.recvStatus answer
    ({ p.1 with status := some (q.1.toPhp T) }, q.2)
  else p

section Frames

variable (headers : Option MetadataMap) (item : Option Item) (trailers : Option StreamTrailers)
  (deadlineUsec now : I64) (batch : BatchOps) (p : BatchResult × ActiveStream)

@[simp] theorem headersStage_message :
    (headersStage T headers batch p).1.message = p.1.message := by
  unfold headersStage; split <;> rfl

@[simp] theorem headersStage_status : (headersStage T headers batch p).1.status = p.1.status := by
  unfold headersStage; split <;> rfl

/-- The headers part changes only what is known of the headers. -/
theorem headersStage_snd : ∃ md rx, (headersStage T headers batch p).2 =
    { p.2 with initialMetadata := md, metaRx := rx } := by
  unfold headersStage ActiveStream.recvInitialMetadata
  repeat' split
  all_goals exact ⟨_, _, rfl⟩

@[simp] theorem headersStage_driven : (headersStage T headers batch p).2.driven = p.2.driven := by
  obtain ⟨_, _, h⟩ := headersStage_snd T headers batch p
  rw [h]

@[simp] theorem headersStage_cachedTrailers :
    (headersStage T headers batch p).2.cachedTrailers = p.2.cachedTrailers := by
  obtain ⟨_, _, h⟩ := headersStage_snd T headers batch p
  rw [h]

@[simp] theorem headersStage_trailersRx :
    (headersStage T headers batch p).2.trailersRx = p.2.trailersRx := by
  obtain ⟨_, _, h⟩ := headersStage_snd T headers batch p
  rw [h]

@[simp] theorem messageStage_metadata :
    (messageStage T deadlineUsec now item batch p).1.metadata = p.1.metadata := by
  unfold messageStage; split <;> rfl

@[simp] theorem messageStage_status :
    (messageStage T deadlineUsec now item batch p).1.status = p.1.status := by
  unfold messageStage; split <;> rfl

/-- The message part changes only the cached trailers. -/
theorem messageStage_snd : ∃ cached, (messageStage T deadlineUsec now item batch p).2 =
    { p.2 with cachedTrailers := cached } := by
  unfold messageStage ActiveStream.recvMessage
  repeat' split
  all_goals exact ⟨_, rfl⟩

@[simp] theorem messageStage_driven :
    (messageStage T deadlineUsec now item batch p).2.driven = p.2.driven := by
  obtain ⟨_, h⟩ := messageStage_snd T item deadlineUsec now batch p
  rw [h]

@[simp] theorem messageStage_initialMetadata :
    (messageStage T deadlineUsec now item batch p).2.initialMetadata = p.2.initialMetadata := by
  obtain ⟨_, h⟩ := messageStage_snd T item deadlineUsec now batch p
  rw [h]

@[simp] theorem messageStage_metaRx :
    (messageStage T deadlineUsec now item batch p).2.metaRx = p.2.metaRx := by
  obtain ⟨_, h⟩ := messageStage_snd T item deadlineUsec now batch p
  rw [h]

@[simp] theorem messageStage_trailersRx :
    (messageStage T deadlineUsec now item batch p).2.trailersRx = p.2.trailersRx := by
  obtain ⟨_, h⟩ := messageStage_snd T item deadlineUsec now batch p
  rw [h]

@[simp] theorem messageStage_none_snd :
    (messageStage T deadlineUsec now none batch p).2 = p.2 := by
  simp only [messageStage, ActiveStream.recvMessage, ite_self]
  repeat' split
  all_goals rfl

/-- Trailers are cached only for an error in the queue. -/
theorem mem_messageStage_cachedTrailers {t : StreamTrailers}
    (h : t ∈ (messageStage T deadlineUsec now item batch p).2.cachedTrailers) :
    t ∈ p.2.cachedTrailers
      ∨ ∃ status, item = some (.error status) ∧ t = .ofStatus T status deadlineUsec now := by
  unfold messageStage ActiveStream.recvMessage at h
  split at h
  · split at h
    · exact .inl h
    · split at h
      · exact .inl h
      · exact .inl h
      · exact .inl h
      · next status hi =>
        refine .inr ⟨status, ?_, (Option.some.inj h).symm⟩
        split at hi
        · exact hi
        · cases hi
  · exact .inl h

@[simp] theorem statusStage_metadata :
    (statusStage T trailers batch p).1.metadata = p.1.metadata := by
  unfold statusStage; split <;> rfl

@[simp] theorem statusStage_message :
    (statusStage T trailers batch p).1.message = p.1.message := by
  unfold statusStage; split <;> rfl

/-- The status part changes only what is known of the trailers. -/
theorem statusStage_snd : ∃ cached rx, (statusStage T trailers batch p).2 =
    { p.2 with cachedTrailers := cached, trailersRx := rx } := by
  unfold statusStage ActiveStream.recvStatus
  repeat' split
  all_goals exact ⟨_, _, rfl⟩

@[simp] theorem statusStage_driven :
    (statusStage T trailers batch p).2.driven = p.2.driven := by
  obtain ⟨_, _, h⟩ := statusStage_snd T trailers batch p
  rw [h]

@[simp] theorem statusStage_initialMetadata :
    (statusStage T trailers batch p).2.initialMetadata = p.2.initialMetadata := by
  obtain ⟨_, _, h⟩ := statusStage_snd T trailers batch p
  rw [h]

@[simp] theorem statusStage_metaRx :
    (statusStage T trailers batch p).2.metaRx = p.2.metaRx := by
  obtain ⟨_, _, h⟩ := statusStage_snd T trailers batch p
  rw [h]

/-- Trailers are not cached by the status part. -/
theorem mem_statusStage_cachedTrailers {t : StreamTrailers}
    (h : t ∈ (statusStage T trailers batch p).2.cachedTrailers) : t ∈ p.2.cachedTrailers := by
  unfold statusStage ActiveStream.recvStatus at h
  repeat' split at h
  all_goals simp_all

end Frames

/-- The three parts of `build_stream_result`, in order, on a stream state. -/
def streamResult (deadlineUsec : I64) (batch : BatchOps) (st : ActiveStream) :
    BatchResult × ActiveStream :=
  statusStage T env.trailers batch
    (messageStage T deadlineUsec env.nowStatus env.item batch
      (headersStage T env.headers batch ({}, st)))

/-- `build_stream_result`. -/
def buildStreamResult (batch : BatchOps) : M BatchResult := do
  getRuntime env
  let c ← Fallible.gets World.call
  match c.streamState with
  | none => Fallible.throw (.default "no active stream")
  | some st => do
    let p := streamResult T env c.deadlineUsec batch st
    Fallible.modify (·.setStream p.2)
    pure p.1

end GrpcPhp
