import GrpcPhp.Call.Method

/-!
# Routing a batch

`startBatch` checks a batch against the state of the call, routes it, and acknowledges
its send operations.  The routing is the part of the extension with the most state:
which of the buffers, the stream and the unary path a batch uses depends on what the
batches before it left behind.

The three cases of `dispatch_batch` are three definitions here, and the checks made
before the dispatch are `admission`, which reads the call but does not change it.
-/

namespace GrpcPhp

open Lib Php

variable (T : Tonic) (env : Env)

/-! ## Updates of the call -/

namespace World

/-- Update the call and nothing else. -/
def mapCall (w : World) (f : GrpcCall → GrpcCall) : World := { w with call := f w.call }

/-- `std::mem::take(&mut self.pending_metadata)`. -/
def takePendingMetadata (w : World) : World := w.mapCall fun c ↦ { c with pendingMetadata := [] }

/-- `self.pending_message.take()`. -/
def takePendingMessage (w : World) : World := w.mapCall fun c ↦ { c with pendingMessage := none }

/-- Overwrite both buffers with what the batch sends. -/
def buffer (w : World) (b : BatchOps) : World := w.mapCall fun c ↦
  { c with pendingMetadata := b.sendMetadata, pendingMessage := b.sendMessage }

/-- `self.pending_metadata.extend(plugin_md)`. -/
def extendPending (w : World) (ps : Pairs) : World := w.mapCall fun c ↦
  { c with pendingMetadata := c.pendingMetadata ++ ps }

end World

/-! ## `dispatch_batch` -/

/-- Forward a message and a close to the active stream. -/
def forward (msg : Option Bytes) (close : Bool) : M Unit := do
  if let some m := msg then sendStreamMessage env m
  if close then closeStreamSend

/-- CASE 1, a first message without a close: start a bidi stream and send on it.  The
metadata is the buffered one. -/
def startWrite (batch : BatchOps) : M BatchResult := do
  let sendMetadata ← Fallible.gets fun w ↦ w.call.pendingMetadata
  Fallible.modify World.takePendingMetadata
  let plugin ← pluginMetadata env
  startBidiStream T env sendMetadata plugin
  if let some m := batch.sendMessage then sendStreamMessage env m
  pure {}

/-- CASE 1, otherwise: overwrite the buffers, add the plugin's pairs, and with a close
dispatch what is buffered. -/
def bufferSend (batch : BatchOps) : M BatchResult := do
  Fallible.modify (·.buffer batch)
  let plugin ← pluginMetadata env
  Fallible.modify (·.extendPending plugin)
  if batch.sendClose then do
    let c ← Fallible.gets World.call
    Fallible.modify fun w ↦ w.takePendingMetadata.takePendingMessage
    startServerStream T env c.pendingMetadata [] c.pendingMessage
  pure {}

/-- CASE 1: a batch that only sends. -/
def dispatchSendOnly (batch : BatchOps) : M BatchResult := do
  if (← Fallible.gets fun w ↦ w.call.streamState).isSome then do
    forward env batch.sendMessage batch.sendClose
    pure {}
  else if !batch.sendClose && batch.sendMessage.isSome then startWrite T env batch
  else bufferSend T env batch

/-- CASE 2: a batch with receive operations on an active stream. -/
def dispatchActive (batch : BatchOps) : M BatchResult := do
  forward env (if batch.hasSendOps then batch.sendMessage else none)
    (batch.hasSendOps && batch.sendClose)
  buildStreamResult T env batch

/-- The receive flags of a batch, as CASE 3 passes them to `build_stream_result`. -/
def BatchOps.recvOnly (batch : BatchOps) : BatchOps where
  recvInitialMetadata := batch.recvInitialMetadata
  recvMessage := batch.recvMessage
  recvStatus := batch.recvStatus
  hasRecvOps := true

/-- A unary call, and its result object. -/
def unaryResult (batch : BatchOps) (md plugin : Pairs) (msg : Option Bytes) : M BatchResult := do
  let result ← executeCall T env md plugin msg
  pure (buildUnaryResult T batch.recvInitialMetadata batch.recvMessage batch.recvStatus result)

/-- CASE 3 once the request is known: unary when message and status are received
together, a server stream when the send side is closed, and unary otherwise. -/
def dispatchRequest (batch : BatchOps) (md plugin : Pairs) (msg : Option Bytes) :
    M BatchResult := do
  if batch.recvMessage && batch.recvStatus then unaryResult T env batch md plugin msg
  else if ← Fallible.gets fun w ↦ w.call.sendClosed then do
    startServerStream T env md plugin msg
    buildStreamResult T env batch.recvOnly
  else unaryResult T env batch md plugin msg

/-- CASE 3: receive operations and no active stream.  With send operations the request
is the batch's and the plugin is invoked; without, the request is what is buffered. -/
def dispatchFresh (batch : BatchOps) : M BatchResult := do
  if batch.hasSendOps then do
    let plugin ← pluginMetadata env
    dispatchRequest T env batch batch.sendMetadata plugin batch.sendMessage
  else do
    let c ← Fallible.gets World.call
    Fallible.modify fun w ↦ w.takePendingMetadata.takePendingMessage
    dispatchRequest T env batch c.pendingMetadata [] c.pendingMessage

/-- `dispatch_batch`. -/
def dispatchBatch (batch : BatchOps) : M BatchResult := do
  if batch.hasSendOps && !batch.hasRecvOps then dispatchSendOnly T env batch
  else if (← Fallible.gets fun w ↦ w.call.streamState).isSome then dispatchActive T env batch
  else dispatchFresh T env batch

/-! ## `start_batch` -/

/-- The sequencing error of ext-grpc, `GRPC_CALL_ERROR_TOO_MANY_OPERATIONS`. -/
def tooManyOperations : PhpException := logicException "start_batch was called incorrectly" 8

/-- The checks before the dispatch.  `ok none` is a batch without operations. -/
def admission (c : GrpcCall) (ops : ZendHashTable) : Except PhpException (Option BatchOps) := do
  if c.channelClosed then .error (runtimeException "startBatch Error. Channel is closed")
  else if c.cancelToken then
    .error (GrpcError.status 1 "Call has been cancelled").toPhp
  else do
    let batch ← parseOps ops
    if !batch.hasSendOps && !batch.hasRecvOps then pure none
    else if c.finished then .error tooManyOperations
    else if batch.hasSendInitialMetadata && c.initialMetadataSent then .error tooManyOperations
    else pure (some batch)

/-- The batch that the checks let through, if it has operations. -/
def admitted (c : GrpcCall) (ops : ZendHashTable) : Option BatchOps :=
  (admission c ops).toOption.join

/-- The flags an admitted batch sets before it is dispatched. -/
def GrpcCall.accept (c : GrpcCall) (batch : BatchOps) : GrpcCall :=
  { c with
    initialMetadataSent := c.initialMetadataSent || batch.hasSendInitialMetadata
    sendClosed := c.sendClosed || batch.sendClose }

/-- A delivered status ends the call. -/
def GrpcCall.finish (c : GrpcCall) (batch : BatchOps) : GrpcCall :=
  { c with finished := c.finished || batch.recvStatus }

/-- The acknowledgements of the send operations. -/
def BatchResult.ack (r : BatchResult) (batch : BatchOps) : BatchResult :=
  { r with
    sendMetadata := batch.hasSendInitialMetadata
    sendMessage := batch.sendMessage.isSome
    sendClose := batch.sendClose }

/-- `start_batch`. -/
def startBatch (ops : ZendHashTable) : M BatchResult := do
  let c ← Fallible.gets World.call
  match ← Fallible.lift (admission c ops) with
  | none => pure {}
  | some batch => do
    Fallible.modify (·.mapCall (·.accept batch))
    let r ← dispatchBatch T env batch
    Fallible.modify (·.mapCall (·.finish batch))
    pure (r.ack batch)

/-! ## The PHP program -/

/-- What PHP code can do with one call. -/
inductive Action where
  /-- `startBatch`, with what the outside does meanwhile. -/
  | startBatch (env : Env) (ops : ZendHashTable)
  | setCredentials (plugin : PluginRef)
  | cancel
  /-- `close` on the channel the call was created from. -/
  | closeChannel

/-- Record how a batch ended. -/
def World.settle (ops : ZendHashTable) : Except PhpException BatchResult × World → World
  | (.ok r, w) => w.emit (.returned ops r)
  | (.error e, w) => w.emit (.raised e)

/-- One action of the PHP program. -/
def step (w : World) : Action → World
  | .startBatch env ops => World.settle ops (startBatch T env ops w)
  | .setCredentials plugin => w.mapCall fun c ↦ { c with callPlugin := some plugin }
  | .cancel => w.mapCall fun c ↦ { c with cancelToken := true }
  | .closeChannel => w.mapCall fun c ↦ { c with channelClosed := true }

/-- A freshly constructed call, on a channel in any state. -/
def World.fresh (method : String) (deadlineUsec : I64) (callPlugin : Option PluginRef)
    (connectivity : ChannelState) : World where
  call := { method, deadlineUsec, callPlugin }
  connectivity := connectivity

end GrpcPhp
