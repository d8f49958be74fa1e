import GrpcPhp.Call.State
import GrpcPhp.Lib.Channel

/-!
# The stream-driving task

`start_server_stream` and `start_bidi_stream` spawn the same task up to the RPC it makes:
it waits for the channel, makes the call, hands the response headers over, forwards
the messages, and reports how the stream ended.  It talks to the PHP thread through three
channels: a bounded queue of items, a oneshot for the headers and a oneshot for the
trailers.

A program point of the task is a `Driver`, named after the statement to be executed next;
where the rest of the code depends on what happened before, the program point carries it.
What the transport does is scripted by an `Answer`, and a step of the task is labelled by
what it waited for, so that a run says when the transport answered.
-/

namespace GrpcPhp

open Lib Php

/-! ## The transport -/

/-- How a response stream ends. -/
inductive Finish where
  /-- The end of the stream; what `trailers()` then gives. -/
  | clean (trailers : Except Status (Option MetadataMap))
  /-- An error in place of a message. -/
  | error (status : Status)

/-- A response: headers, messages, and the end. -/
structure Response where
  headers : MetadataMap
  messages : List Bytes
  finish : Finish

/-- What becomes of the call. -/
inductive Answer where
  /-- `ready()` fails; the status its error is turned into. -/
  | notReady (status : Status)
  /-- The call fails without a response. -/
  | rejected (status : Status)
  /-- The server responds. -/
  | response (r : Response)

/-- The response headers. -/
def Answer.headers : Answer → MetadataMap
  | .response r => r.headers
  | _ => []

/-- The messages of the response. -/
def Answer.messages : Answer → List Bytes
  | .response r => r.messages
  | _ => []

/-- `body_stream.trailers().await.unwrap_or_default().unwrap_or_default()`. -/
def Answer.trailers : Answer → MetadataMap
  | .response { finish := .clean (.ok (some md)), .. } => md
  | _ => []

/-! ## Why the task ends -/

/-- The terminal event of the task. -/
inductive Cause where
  /-- `ready()` failed. -/
  | notReady (status : Status)
  /-- The call failed without a response. -/
  | rejected (status : Status)
  /-- The response stream ended. -/
  | clean
  /-- The response stream failed. -/
  | error (status : Status)
  /-- The deadline passed. -/
  | deadline
  /-- The call was cancelled. -/
  | cancelled

namespace Cause

/-- The last item the task puts into the queue. -/
def item : Cause → Item
  | .notReady status => .error status
  | _ => .ok none

/-- What the terminal event amounts to, where `md` are the trailers of the response. -/
def trailers (T : Tonic) (md : MetadataMap) (deadlineUsec now : I64) : Cause → StreamTrailers
  | .notReady status | .rejected status | .error status => .ofStatus T status deadlineUsec now
  | .clean => ⟨0, "", md⟩
  | .deadline => deadlineExceededTrailers
  | .cancelled => ⟨1, "Call cancelled", []⟩

end Cause

/-- The terminal event at the end of a response. -/
def Finish.cause : Finish → Cause
  | .clean _ => .clean
  | .error status => .error status

/-! ## Program points -/

/-- The program points of the task. -/
inductive Driver where
  /-- Spawned; the timer is not set yet. -/
  | spawned
  /-- `timeout_at(deadline, grpc_client.ready())`. -/
  | connecting
  /-- `timeout_at(deadline, grpc_client.server_streaming(…))`, or `streaming`. -/
  | requesting
  /-- `meta_tx.send(initial_md)`, then the loop. -/
  | opening
  /-- `meta_tx.send(MetadataMap::default())`, then the end. -/
  | refusing (cause : Cause)
  /-- The `select!` of the loop. -/
  | reading
  /-- `msg_tx.send(Ok(Some(bytes)))`, then the loop. -/
  | forwarding (bytes : Bytes)
  /-- `msg_tx.send(item)`, then the trailers; `now` is the clock at the terminal event. -/
  | ending (cause : Cause) (now : I64)
  /-- `trailers_tx.send(trailers)`, after fetching those of a stream that ended. -/
  | delivering (cause : Cause) (now : I64)
  /-- The task has returned, and dropped its ends of the channels.  The cause is `none` if
  it returned because nobody receives. -/
  | returned (cause : Option Cause)

namespace Driver

/-- The task has returned. -/
def hasReturned : Driver → Bool
  | .returned _ => true
  | _ => false

/-- The task has not handed over headers yet. -/
def isEarly : Driver → Bool
  | .spawned | .connecting | .requesting | .opening | .refusing _ => true
  | _ => false

/-- The task has put its last item into the queue. -/
def isPast : Driver → Bool
  | .delivering _ _ | .returned _ => true
  | _ => false

/-- The task is about to put an item into the queue. -/
def isSending : Driver → Bool
  | .forwarding _ | .ending _ _ => true
  | _ => false

/-- The terminal event, once it has happened. -/
def cause : Driver → Option Cause
  | .refusing c | .ending c _ | .delivering c _ => some c
  | .returned c => c
  | _ => none

/-- The message the task holds. -/
def held : Driver → List Bytes
  | .forwarding bytes => [bytes]
  | _ => []

end Driver

/-! ## The task and its channels -/

/-- The task with its channels: what is in the queue, and what was sent on the oneshots. -/
structure Task where
  driver : Driver := .spawned
  queue : List Item := []
  headers : Option MetadataMap := none
  trailers : Option StreamTrailers := none
  /-- The messages the transport has still to yield. -/
  unread : List Bytes
  /-- When the timer fires. -/
  timer : Int := 0

/-- A task that was just spawned. -/
def Task.spawn (answer : Answer) : Task where
  unread := answer.messages

/-- `STREAM_MSG_BUFFER`. -/
def STREAM_MSG_BUFFER : Nat := 32

/-- What the task sees of the rest. -/
structure Ctx where
  deadlineUsec : I64
  now : I64
  /-- The cancellation token has fired. -/
  cancelled : Bool
  /-- The receivers were dropped. -/
  gone : Bool

/-- What a step of the task waited for. -/
inductive Act where
  /-- `ready()` succeeded. -/
  | ready
  /-- `ready()` failed. -/
  | notReady
  /-- The response headers arrived. -/
  | headers
  /-- The call failed without a response. -/
  | rejected
  /-- A message arrived. -/
  | message
  /-- The response stream ended, or failed. -/
  | finish
  /-- The timer fired. -/
  | deadline
  /-- The token fired. -/
  | cancelled
  /-- Nothing from outside. -/
  | proceed
deriving DecidableEq

/-- The step waited for the peer. -/
def Act.needsPeer : Act → Bool
  | .ready | .notReady | .headers | .rejected | .message | .finish => true
  | .deadline | .cancelled | .proceed => false

namespace Task

/-- What follows the last item: the trailers, or, when `ready()` failed, the return. -/
def afterItem (c : Cause) (now : I64) : Driver :=
  match c with
  | .notReady status => .returned (some (.notReady status))
  | c => .delivering c now

/-- One step of the task. -/
def step (T : Tonic) (answer : Answer) (ctx : Ctx) (t : Task) (a : Act) : Option Task :=
  match t.driver, a with
  | .spawned, .proceed =>
      some { t with driver := .connecting, timer := deadlineInstant ctx.deadlineUsec ctx.now }
  | .connecting, .ready => match answer with
      | .notReady _ => none
      | _ => some { t with driver := .requesting }
  | .connecting, .notReady => match answer with
      | .notReady status => some { t with driver := .refusing (.notReady status) }
      | _ => none
  | .connecting, .deadline | .requesting, .deadline =>
      if t.timer ≤ ctx.now.val then some { t with driver := .refusing .deadline } else none
  | .requesting, .headers => match answer with
      | .response _ => some { t with driver := .opening }
      | _ => none
  | .requesting, .rejected => match answer with
      | .rejected status => some { t with driver := .refusing (.rejected status) }
      | _ => none
  | .opening, .proceed => some { t with driver := .reading, headers := some answer.headers }
  | .refusing c, .proceed => some { t with driver := .ending c ctx.now, headers := some [] }
  | .reading, .message => match t.unread with
      | m :: ms => some { t with driver := .forwarding m, unread := ms }
      | [] => none
  | .reading, .finish => match t.unread, answer with
      | [], .response r => some { t with driver := .ending r.finish.cause ctx.now }
      | _, _ => none
  | .reading, .cancelled =>
      if ctx.cancelled then some { t with driver := .ending .cancelled ctx.now } else none
  | .reading, .deadline =>
      if t.timer ≤ ctx.now.val then some { t with driver := .ending .deadline ctx.now } else none
  | .forwarding m, .proceed =>
      if ctx.gone then some { t with driver := .returned none }
      else (Queue.send STREAM_MSG_BUFFER t.queue (.ok (some m))).map fun q ↦
        { t with driver := .reading, queue := q }
  | .ending c now, .proceed =>
      -- a failed send is ignored here
      if ctx.gone then some { t with driver := afterItem c now }
      else (Queue.send STREAM_MSG_BUFFER t.queue c.item).map fun q ↦
        { t with driver := afterItem c now, queue := q }
  | .delivering c now, .proceed =>
      some { t with
        driver := .returned (some c)
        trailers := some (c.trailers T answer.trailers ctx.deadlineUsec now) }
  | _, _ => none

end Task

end GrpcPhp
