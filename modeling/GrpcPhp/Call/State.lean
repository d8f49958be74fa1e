import GrpcPhp.Call.Batch
import GrpcPhp.Call.Deadline
import GrpcPhp.Lib.Fallible

/-!
# The state of a call

`GrpcCall` is the PHP object `Grpc\Call` and `ActiveStream` its end of the channels
to a stream-driving task.  A channel endpoint that the code only holds or drops is a
flag here; the channels themselves belong to the two-party model of
`GrpcPhp/Stream`.

A method of a call runs in the monad `M`: it updates a `World`, the call together
with the connectivity state of its channel and a log.  The log is the only thing
that is not in the source.  It records what the call did to the outside (plugin
invocations, RPCs, request messages) and what each batch returned, and no method
reads it.
-/

namespace GrpcPhp

open Lib Php

/-! ## The stream state -/

/-- An item of the response queue: `Result<Option<Bytes>, tonic::Status>`, where
`ok none` is the end-of-stream sentinel. -/
abbrev Item := Except Status (Option Bytes)

instance : DecidableEq Item := fun a b ↦ match a, b with
  | .ok x, .ok y => decidable_of_iff (x = y) (by simp)
  | .error x, .error y => decidable_of_iff (x = y) (by simp)
  | .ok _, .error _ => isFalse (by simp)
  | .error _, .ok _ => isFalse (by simp)

/-- `ActiveStream`. -/
structure ActiveStream where
  /-- The request sender is held; dropping it closes the request stream. -/
  msgTx : Bool
  /-- A task holds the other end of the response queue. -/
  driven : Bool
  initialMetadata : Option MetadataMap
  /-- The receiver of the response headers has not been taken yet. -/
  metaRx : Bool
  cachedTrailers : Option StreamTrailers
  /-- The receiver of the trailers has not been taken yet. -/
  trailersRx : Bool
deriving DecidableEq, Repr

/-- `expired_stream_state`: the stub installed when the deadline had passed before
the dispatch.  Its response queue has no sender. -/
def expiredStreamState : ActiveStream where
  msgTx := false
  driven := false
  initialMetadata := none
  metaRx := false
  cachedTrailers := some ⟨4, "Deadline Exceeded", []⟩
  trailersRx := false

/-- The state installed next to a spawned task; only a bidi stream has a request
sender. -/
def spawnedStreamState (bidi : Bool) : ActiveStream where
  msgTx := bidi
  driven := true
  initialMetadata := none
  metaRx := true
  cachedTrailers := none
  trailersRx := true

/-! ## The call -/

/-- A credentials plugin, by the handle under which PHP's callable is stored. -/
structure PluginRef where
  id : Nat
deriving DecidableEq, Repr

/-- `GrpcCall`, less the fields only `getPeer` and the message size limits use. -/
structure GrpcCall where
  method : String
  deadlineUsec : I64
  callPlugin : Option PluginRef
  cancelToken : Bool := false
  pendingMetadata : Pairs := []
  pendingMessage : Option Bytes := none
  sendClosed : Bool := false
  initialMetadataSent : Bool := false
  finished : Bool := false
  channelClosed : Bool := false
  channelShared : Bool := true
  streamState : Option ActiveStream := none
deriving DecidableEq, Repr

/-- The connectivity states of a channel. -/
inductive ChannelState where
  | idle
  | connecting
  | ready
  | transientFailure
deriving DecidableEq, Repr

/-! ## Results -/

/-- The `status` property of a result. -/
structure PhpStatus where
  metadata : MetadataEntries
  code : Int
  details : String
deriving DecidableEq, Repr

/-- The object `startBatch` returns.  A property that is not set is `none` (or
`false`); a null message is `some none`. -/
structure BatchResult where
  metadata : Option MetadataEntries := none
  message : Option (Option Bytes) := none
  status : Option PhpStatus := none
  sendMetadata : Bool := false
  sendMessage : Bool := false
  sendClose : Bool := false
deriving DecidableEq, Repr

/-- `CallResult`: the outcome of a unary call. -/
structure CallResult where
  initialMetadata : Option MetadataMap
  body : Option Bytes
  trailingMetadata : Option MetadataMap
  code : Int
  message : String
deriving DecidableEq, Repr

/-- What a call hands to the transport. -/
inductive Rpc where
  /-- `grpc_client.unary(request, …)`. -/
  | unary (request : Request Bytes)
  /-- A task that runs `grpc_client.server_streaming(request, …)`. -/
  | serverStreaming (request : Request Bytes)
  /-- A task that runs `grpc_client.streaming(request, …)` on the request queue. -/
  | streaming (request : Request Unit)
deriving DecidableEq, Repr

/-- The metadata an RPC was dispatched with. -/
def Rpc.metadata : Rpc → MetadataMap
  | .unary r | .serverStreaming r => r.metadata
  | .streaming r => r.metadata

/-- The request messages an RPC was dispatched with. -/
def Rpc.messages : Rpc → List Bytes
  | .unary r | .serverStreaming r => [r.message]
  | .streaming _ => []

/-- The duration passed to `set_timeout` for an RPC, in microseconds. -/
def Rpc.timeout : Rpc → Option Nat
  | .unary r | .serverStreaming r => r.timeout
  | .streaming r => r.timeout

/-! ## The world of a call -/

/-- Log entries. -/
inductive Event where
  /-- A plugin was invoked and returned these pairs. -/
  | plugin (pairs : Pairs)
  /-- An RPC was handed to the transport. -/
  | dispatch (rpc : Rpc)
  /-- A message was put into the request queue of the active stream. -/
  | message (m : Bytes)
  /-- A batch returned. -/
  | returned (ops : ZendHashTable) (result : BatchResult)
  /-- A batch threw. -/
  | raised (e : PhpException)

/-- The call, the state of its channel, and the log. -/
structure World where
  call : GrpcCall
  connectivity : ChannelState
  log : List Event := []

/-- The monad of the methods of a call. -/
abbrev M := Fallible PhpException World

namespace World

/-- Append to the log. -/
def emit (w : World) (e : Event) : World := { w with log := w.log ++ [e] }

/-- Install a stream state. -/
def setStream (w : World) (st : ActiveStream) : World :=
  { w with call := { w.call with streamState := some st } }

end World

/-! ## Reading the log

An observation of a world is a list that each event of the log contributes to. -/

namespace Event

/-- The RPC an event hands to the transport. -/
@[simp] def rpcs : Event → List Rpc
  | .dispatch rpc => [rpc]
  | _ => []

/-- The request messages an event hands to the transport. -/
@[simp] def wire : Event → List Bytes
  | .dispatch rpc => rpc.messages
  | .message m => [m]
  | _ => []

/-- The pairs a plugin invocation returned. -/
@[simp] def invocations : Event → List Pairs
  | .plugin pairs => [pairs]
  | _ => []

/-- The message operations PHP was told have been sent. -/
@[simp] def acked : Event → List Bytes
  | .returned ops r => if r.sendMessage then messageOps ops else []
  | _ => []

/-- The metadata operations PHP was told have been sent. -/
@[simp] def ackedMetadata : Event → List Pairs
  | .returned ops r => if r.sendMetadata then metadataOps ops else []
  | _ => []

/-- The exceptions PHP got. -/
@[simp] def raises : Event → List PhpException
  | .raised e => [e]
  | _ => []

end Event

namespace World

/-- What the events of the log contribute, in order. -/
def observe {α : Type} (f : Event → List α) (w : World) : List α := w.log.flatMap f

/-- The RPCs handed to the transport so far. -/
abbrev rpcs : World → List Rpc := observe Event.rpcs

/-- The request messages handed to the transport so far. -/
abbrev wire : World → List Bytes := observe Event.wire

/-- What the plugin invocations so far returned. -/
abbrev invocations : World → List Pairs := observe Event.invocations

/-- The messages PHP was told have been sent. -/
abbrev acked : World → List Bytes := observe Event.acked

/-- The metadata lists PHP was told have been sent. -/
abbrev ackedMetadata : World → List Pairs := observe Event.ackedMetadata

/-- The exceptions PHP got so far. -/
abbrev raises : World → List PhpException := observe Event.raises

variable {α : Type} (f : Event → List α) (w : World)

/-- Appending an event appends its contribution. -/
@[simp] theorem observe_emit (e : Event) : (w.emit e).observe f = w.observe f ++ f e := by
  simp [observe, emit]

/-- Installing a stream is not observed. -/
@[simp] theorem observe_setStream (st : ActiveStream) :
    (w.setStream st).observe f = w.observe f := rfl

end World

end GrpcPhp
