import GrpcPhp.Call.Dispatch
import GrpcPhp.Stream.Driver

/-!
# The PHP thread and the task

The two parties of an open stream as one transition system.  `startBatch` was one step in
`GrpcPhp/Call`; here the PHP thread goes through it statement by statement, and stops at
every `block_on` that has to wait.  The stages of `build_stream_result` are the functions
of `GrpcPhp/Call/Method.lean`, applied to what the channels give.

The system has no scheduler: a run is any sequence of labels, so that what is proved of
all runs holds for every interleaving.  There is a runtime in all of them: the one that started
the stream.

The receiving end of the request queue is first in the hands of the task, as part of the
request.  A task whose `ready()` fails or takes too long returns with it, and any other hands it to
the transport with the call.  The transport takes from the queue (`pull`) when the peer's flow
control admits it, and drops it at any time (`abandon`), be it before or after the task returns.
A queue that is dropped is closed, and what was in it is lost.
-/

namespace GrpcPhp

open Lib Php

/-! ## States -/

/-- A batch being executed: the array, and what it parsed to. -/
structure Batch where
  ops : ZendHashTable
  parsed : BatchOps

/-- The program points of the PHP thread, with the result object built so far. -/
inductive Thread where
  /-- Outside `startBatch`. -/
  | idle
  /-- `send_stream_message`: waiting for room in the request queue. -/
  | sending (j : Batch) (m : Bytes)
  /-- `build_stream_result`, before the headers. -/
  | headers (j : Batch) (r : BatchResult)
  /-- Before the message: `try_recv`. -/
  | message (j : Batch) (r : BatchResult)
  /-- `block_on(msg_rx.recv())`. -/
  | waiting (j : Batch) (r : BatchResult)
  /-- Before the status. -/
  | status (j : Batch) (r : BatchResult)
  /-- The drain loop. -/
  | draining (j : Batch) (r : BatchResult)
  /-- The drain loop is over; waiting for the trailers. -/
  | trailing (j : Batch) (r : BatchResult)
  /-- The call object was dropped. -/
  | gone

/-- The capacity of the request queue. -/
def REQUEST_BUFFER : Nat := 4

/-- Who has the receiving end of the request queue. -/
inductive Holder where
  /-- The task, which has not made the call yet. -/
  | task
  | transport
  /-- It was dropped. -/
  | nobody
deriving DecidableEq

/-- What is left of the queue. -/
def Holder.keep (h : Holder) (requests : List Bytes) : List Bytes :=
  if h = .nobody then [] else requests

/-- The system. -/
structure Sys where
  /-- The call less its stream state, the channel state, and the log. -/
  world : World
  /-- The stream state of the call. -/
  stream : ActiveStream
  php : Thread := .idle
  task : Task
  /-- The request queue. -/
  requests : List Bytes := []
  holder : Holder := .task
  /-- The clock. -/
  now : I64

/-- The two ways out of the drain loop's `select!`. -/
inductive Arm where
  | trailers
  | message
deriving DecidableEq

/-- What PHP can do with the call besides `startBatch`. -/
inductive Aside where
  | cancel
  | closeChannel
  | setCredentials (plugin : PluginRef)

/-- The effect on the call. -/
def Aside.update : Aside → GrpcCall → GrpcCall
  | .cancel, c => { c with cancelToken := true }
  | .closeChannel, c => { c with channelClosed := true }
  | .setCredentials plugin, c => { c with callPlugin := some plugin }

@[simp] theorem Aside.update_deadlineUsec (a : Aside) (c : GrpcCall) :
    (a.update c).deadlineUsec = c.deadlineUsec := by cases a <;> rfl

@[simp] theorem Aside.update_finished (a : Aside) (c : GrpcCall) :
    (a.update c).finished = c.finished := by cases a <;> rfl

/-- Labels of the system. -/
inductive Label where
  /-- PHP calls `startBatch`. -/
  | begin (ops : ZendHashTable)
  /-- The PHP thread executes its next statement. -/
  | php
  /-- The PHP thread takes an arm of the drain loop. -/
  | select (arm : Arm)
  /-- PHP calls another method. -/
  | aside (a : Aside)
  /-- PHP drops the call. -/
  | drop
  /-- The task makes a step. -/
  | driver (a : Act)
  /-- The transport takes a message from the request queue. -/
  | pull
  /-- The transport drops the request queue. -/
  | abandon
  /-- Time passes. -/
  | tick (t : I64)

namespace Sys

/-! ## The PHP thread -/

/-- The receiving ends are gone. -/
def isGone (s : Sys) : Bool := match s.php with
  | .gone => true
  | _ => false

/-- The task has returned. -/
def closed (s : Sys) : Bool := s.task.driver.hasReturned

/-- Nobody takes from the request queue any more. -/
def requestsClosed (s : Sys) : Bool := s.holder = .nobody

/-- The batch throws. -/
def raise (s : Sys) (e : PhpException) : Sys :=
  { s with php := .idle, world := s.world.emit (.raised e) }

/-- The batch returns. -/
def complete (s : Sys) (j : Batch) (r : BatchResult) : Sys :=
  { s with
    php := .idle
    world := (s.world.mapCall (·.finish j.parsed)).emit (.returned j.ops (r.ack j.parsed)) }

/-- The rest of the batch once its message, if any, has been sent. -/
def afterSend (s : Sys) (j : Batch) : Sys :=
  let s := { s with stream := { s.stream with msgTx := s.stream.msgTx && !j.parsed.sendClose } }
  if j.parsed.hasRecvOps then { s with php := .headers j {} } else s.complete j {}

@[simp] theorem afterSend_task (s : Sys) (j : Batch) : (s.afterSend j).task = s.task := by
  unfold afterSend
  dsimp only
  split <;> rfl

/-- The thread then receives, or the batch has returned. -/
theorem afterSend_php (s : Sys) (j : Batch) :
    (s.afterSend j).php = .headers j {} ∨ (s.afterSend j).php = .idle := by
  unfold afterSend
  dsimp only
  split
  · exact .inl rfl
  · exact .inr rfl

/-- Only the request sender is dropped. -/
theorem afterSend_stream (s : Sys) (j : Batch) :
    ∃ msgTx, (s.afterSend j).stream = { s.stream with msgTx } := by
  unfold afterSend
  dsimp only
  split <;> exact ⟨_, rfl⟩

/-- `start_batch` on an open stream, up to the first wait. -/
def begin (s : Sys) (ops : ZendHashTable) : Sys :=
  match admission s.world.call ops with
  | .error e => s.raise e
  | .ok none => { s with world := s.world.emit (.returned ops {}) }
  | .ok (some b) =>
      let s := { s with world := s.world.mapCall (·.accept b) }
      match b.sendMessage with
      | none => s.afterSend ⟨ops, b⟩
      | some m =>
          if s.stream.msgTx then { s with php := .sending ⟨ops, b⟩ m }
          else s.raise (.default "stream does not support sending")

variable (T : Tonic)

/-- After the headers stage, where awaiting the headers gave `answer`. -/
def gotHeaders (s : Sys) (j : Batch) (r : BatchResult) (answer : Option MetadataMap) : Sys :=
  let p := headersStage T answer j.parsed (r, s.stream)
  { s with stream := p.2, php := .message j p.1 }

/-- After the message stage, where the queue gave `answer` and `queue` is left. -/
def gotMessage (s : Sys) (j : Batch) (r : BatchResult) (answer : Option Item)
    (queue : List Item) : Sys :=
  let p := messageStage T s.world.call.deadlineUsec s.now answer j.parsed (r, s.stream)
  { s with stream := p.2, php := .status j p.1, task := { s.task with queue } }

/-- After the status stage, where the drain loop gave `answer`. -/
def gotStatus (s : Sys) (j : Batch) (r : BatchResult) (answer : Option StreamTrailers) : Sys :=
  let p := statusStage T answer j.parsed (r, s.stream)
  { s with stream := p.2 }.complete j p.1

/-- The next statement of the PHP thread; `none` when it has to wait, or when it is in
the drain loop. -/
def phpStep (s : Sys) : Option Sys :=
  match s.php with
  | .idle | .draining _ _ | .gone => none
  | .sending j m =>
      if s.requestsClosed then some (s.raise (.default "stream send channel closed"))
      else (Queue.send REQUEST_BUFFER s.requests m).map fun q ↦
        { s with requests := q, world := s.world.emit (.message m) }.afterSend j
  | .headers j r =>
      if j.parsed.recvInitialMetadata && s.stream.awaitsHeaders then
        (Oneshot.await s.closed s.task.headers).map (s.gotHeaders T j r)
      else some (s.gotHeaders T j r none)
  | .message j r =>
      if j.parsed.recvMessage && s.stream.cachedTrailers.isNone then
        match Queue.recv s.closed s.task.queue with
        | some (answer, q) => some (s.gotMessage T j r answer q)
        | none => some { s with php := .waiting j r }
      else some (s.gotMessage T j r none s.task.queue)
  | .waiting j r =>
      (Queue.recv s.closed s.task.queue).map fun p ↦ s.gotMessage T j r p.1 p.2
  | .status j r =>
      if j.parsed.recvStatus && s.stream.cachedTrailers.isNone && s.stream.trailersRx then
        some { s with php := .draining j r }
      else some (s.gotStatus T j r none)
  | .trailing j r => (Oneshot.await s.closed s.task.trailers).map (s.gotStatus T j r)

/-- An arm of the drain loop; `none` when what it waits for is not there. -/
def select (s : Sys) (arm : Arm) : Option Sys :=
  match s.php, arm with
  | .draining j r, .trailers =>
      (Oneshot.await s.closed s.task.trailers).map (s.gotStatus T j r)
  | .draining j r, .message => (Queue.recv s.closed s.task.queue).map fun p ↦
      match p.1 with
      | some (.ok (some _)) => { s with task := { s.task with queue := p.2 } }
      | _ => { s with task := { s.task with queue := p.2 }, php := .trailing j r }
  | _, _ => none

/-! ## The system -/

/-- The connectivity state recorded when the call is answered. -/
def answered (s : Sys) (answer : Answer) (a : Act) : ChannelState :=
  if s.world.call.channelShared then match a, answer with
    | .headers, _ => .ready
    | .rejected, .rejected status =>
        if status.code = .unavailable then .transientFailure else .ready
    | _, _ => s.world.connectivity
  else s.world.connectivity

/-- What the task sees. -/
def ctx (s : Sys) : Ctx where
  deadlineUsec := s.world.call.deadlineUsec
  now := s.now
  cancelled := s.world.call.cancelToken
  gone := s.isGone

/-- Who has the request queue after a step of the task: the call takes it to the transport, and
a task that returns with it drops it. -/
def holderAfter (s : Sys) (a : Act) (task : Task) : Holder :=
  match s.holder with
  | .task => if a = .ready then .transport else if task.driver.hasReturned then .nobody else .task
  | h => h

/-- The system after a step of the task. -/
def afterTask (s : Sys) (answer : Answer) (a : Act) (task : Task) : Sys :=
  { s with
    task
    holder := s.holderAfter a task
    requests := (s.holderAfter a task).keep s.requests
    world := { s.world with connectivity := s.answered answer a } }

section

variable (s : Sys) (answer : Answer) (a : Act) (task : Task)

@[simp] theorem afterTask_task : (s.afterTask answer a task).task = task := rfl
@[simp] theorem afterTask_php : (s.afterTask answer a task).php = s.php := rfl
@[simp] theorem afterTask_stream : (s.afterTask answer a task).stream = s.stream := rfl
@[simp] theorem afterTask_call : (s.afterTask answer a task).world.call = s.world.call := rfl
@[simp] theorem afterTask_holder : (s.afterTask answer a task).holder = s.holderAfter a task := rfl
@[simp] theorem afterTask_now : (s.afterTask answer a task).now = s.now := rfl

end

/-- One step of the system. -/
def step (answer : Answer) (s : Sys) : Label → Option Sys
  | .begin ops => match s.php with
      | .idle => some (s.begin ops)
      | _ => none
  | .php => s.phpStep T
  | .select arm => s.select T arm
  | .aside a => match s.php with
      | .idle => some { s with world := s.world.mapCall a.update }
      | _ => none
  | .drop => match s.php with
      | .idle => some { s with php := .gone }
      | _ => none
  | .driver a => (s.task.step T answer s.ctx a).map (s.afterTask answer a)
  | .pull => match s.holder, s.requests with
      | .transport, _ :: q => some { s with requests := q }
      | _, _ => none
  | .abandon => match s.holder with
      | .transport => some { s with holder := .nobody, requests := [] }
      | _ => none
  | .tick t => if s.now.val ≤ t.val then some { s with now := t } else none

/-- The system right after a stream was started: the task was just spawned, and the PHP
thread has returned from the batch (`idle`), is about to send the first write
(`sending`), or is about to read (`headers`).  The log starts here. -/
def spawn (answer : Answer) (bidi : Bool) (call : GrpcCall) (connectivity : ChannelState)
    (php : Thread) (now : I64) : Sys where
  world := { call, connectivity }
  stream := spawnedStreamState bidi
  php := php
  task := .spawn answer
  now := now

end Sys

end GrpcPhp
