import GrpcPhp.Call.Step
import GrpcPhp.Stream.System

/-!
# What one step can do

Inversion of the two step functions.  `Task.Steps` has a constructor for each transition
of the task and `Sys.Advances` one for each transition of the PHP thread inside a batch,
with the guard under which it is taken; every invariant of a stream is a case analysis of
these two relations.
-/

namespace GrpcPhp

open Lib Php

variable {T : Tonic} {answer : Answer}

/-! ## The task -/

/-- The transitions of the task. -/
inductive Task.Steps (T : Tonic) (answer : Answer) (ctx : Ctx) (t : Task) : Act → Task → Prop
  | start (h : t.driver = .spawned) : Steps T answer ctx t .proceed
      { t with driver := .connecting, timer := deadlineInstant ctx.deadlineUsec ctx.now }
  | ready (h : t.driver = .connecting) (ha : ∀ status, answer ≠ .notReady status) :
      Steps T answer ctx t .ready { t with driver := .requesting }
  | notReady {status : Status} (h : t.driver = .connecting) (ha : answer = .notReady status) :
      Steps T answer ctx t .notReady { t with driver := .refusing (.notReady status) }
  | /-- The deadline passes before the response. -/
    elapsed (h : t.driver = .connecting ∨ t.driver = .requesting) (ht : t.timer ≤ ctx.now.val) :
      Steps T answer ctx t .deadline { t with driver := .refusing .deadline }
  | headers {r : Response} (h : t.driver = .requesting) (ha : answer = .response r) :
      Steps T answer ctx t .headers { t with driver := .opening }
  | rejected {status : Status} (h : t.driver = .requesting) (ha : answer = .rejected status) :
      Steps T answer ctx t .rejected { t with driver := .refusing (.rejected status) }
  | opened (h : t.driver = .opening) : Steps T answer ctx t .proceed
      { t with driver := .reading, headers := some answer.headers }
  | refused {c : Cause} (h : t.driver = .refusing c) : Steps T answer ctx t .proceed
      { t with driver := .ending c ctx.now, headers := some [] }
  | message {m : Bytes} {ms : List Bytes} (h : t.driver = .reading) (hu : t.unread = m :: ms) :
      Steps T answer ctx t .message { t with driver := .forwarding m, unread := ms }
  | finish {r : Response} (h : t.driver = .reading) (hu : t.unread = [])
      (ha : answer = .response r) :
      Steps T answer ctx t .finish { t with driver := .ending r.finish.cause ctx.now }
  | cancelled (h : t.driver = .reading) (hc : ctx.cancelled = true) :
      Steps T answer ctx t .cancelled { t with driver := .ending .cancelled ctx.now }
  | /-- The deadline passes during the response. -/
    deadline (h : t.driver = .reading) (ht : t.timer ≤ ctx.now.val) :
      Steps T answer ctx t .deadline { t with driver := .ending .deadline ctx.now }
  | forwarded {m : Bytes} (h : t.driver = .forwarding m) (hg : ctx.gone = false)
      (hq : t.queue.length < STREAM_MSG_BUFFER) : Steps T answer ctx t .proceed
      { t with driver := .reading, queue := t.queue ++ [.ok (some m)] }
  | /-- Nobody receives the message. -/
    forwardFailed {m : Bytes} (h : t.driver = .forwarding m) (hg : ctx.gone = true) :
      Steps T answer ctx t .proceed { t with driver := .returned none }
  | ended {c : Cause} {now : I64} (h : t.driver = .ending c now) (hg : ctx.gone = false)
      (hq : t.queue.length < STREAM_MSG_BUFFER) : Steps T answer ctx t .proceed
      { t with driver := Task.afterItem c now, queue := t.queue ++ [c.item] }
  | /-- Nobody receives the last item. -/
    endFailed {c : Cause} {now : I64} (h : t.driver = .ending c now) (hg : ctx.gone = true) :
      Steps T answer ctx t .proceed { t with driver := Task.afterItem c now }
  | delivered {c : Cause} {now : I64} (h : t.driver = .delivering c now) :
      Steps T answer ctx t .proceed { t with
        driver := .returned (some c)
        trailers := some (c.trailers T answer.trailers ctx.deadlineUsec now) }

/-- **Inversion of a step of the task.** -/
theorem Task.step_steps {ctx : Ctx} {t t' : Task} {a : Act}
    (h : t.step T answer ctx a = some t') : Task.Steps T answer ctx t a t' := by
  unfold Task.step at h
  split at h
  next hd => cases h; exact .start hd
  next hd =>
    split at h
    · cases h
    · next ha => cases h; exact .ready hd ha
  next hd =>
    split at h
    · cases h; exact .notReady hd rfl
    · cases h
  next hd =>
    split at h
    · next ht => cases h; exact .elapsed (.inl hd) ht
    · cases h
  next hd =>
    split at h
    · next ht => cases h; exact .elapsed (.inr hd) ht
    · cases h
  next hd =>
    split at h
    · cases h; exact .headers hd rfl
    · cases h
  next hd =>
    split at h
    · cases h; exact .rejected hd rfl
    · cases h
  next hd => cases h; exact .opened hd
  next c hd => cases h; exact .refused hd
  next hd =>
    split at h
    · next hu => cases h; exact .message hd hu
    · cases h
  next hd =>
    split at h
    · next hu => cases h; exact .finish hd hu rfl
    · cases h
  next hd =>
    split at h
    · next hc => cases h; exact .cancelled hd hc
    · cases h
  next hd =>
    split at h
    · next ht => cases h; exact .deadline hd ht
    · cases h
  next m hd =>
    split at h
    · next hg => cases h; exact .forwardFailed hd hg
    · next hg =>
      obtain ⟨q, hq, rfl⟩ := Option.map_eq_some_iff.mp h
      obtain ⟨hlen, rfl⟩ := Queue.send_eq_some.mp hq
      exact .forwarded hd (by simpa using hg) hlen
  next c now hd =>
    split at h
    · next hg => cases h; exact .endFailed hd hg
    · next hg =>
      obtain ⟨q, hq, rfl⟩ := Option.map_eq_some_iff.mp h
      obtain ⟨hlen, rfl⟩ := Queue.send_eq_some.mp hq
      exact .ended hd (by simpa using hg) hlen
  next c now hd => cases h; exact .delivered hd
  next => cases h

/-- A task that has returned makes no step. -/
theorem Task.Steps.running {ctx : Ctx} {t t' : Task} {a : Act} (hs : t.Steps T answer ctx a t') :
    t.driver.hasReturned = false := by
  cases hs with
  | elapsed hd => obtain hd | hd := hd <;> rw [hd] <;> rfl
  | _ hd => rw [hd]; rfl

/-! ## The PHP thread -/

/-- The transitions of the PHP thread inside a batch. -/
inductive Sys.Advances (T : Tonic) (s : Sys) : Sys → Prop
  | /-- The request stream is gone. -/
    sendFailed {j : Batch} {m : Bytes} (h : s.php = .sending j m)
      (hc : s.requestsClosed = true) :
      Advances T s (s.raise (.default "stream send channel closed"))
  | sent {j : Batch} {m : Bytes} (h : s.php = .sending j m) (hc : s.requestsClosed = false)
      (hq : s.requests.length < REQUEST_BUFFER) :
      Advances T s ({ s with
        requests := s.requests ++ [m], world := s.world.emit (.message m) }.afterSend j)
  | /-- The headers were awaited. -/
    awaited {j : Batch} {r : BatchResult} (h : s.php = .headers j r)
      (hb : j.parsed.recvInitialMetadata = true) (ha : s.stream.awaitsHeaders = true)
      (hc : s.task.headers = none → s.closed = true) :
      Advances T s (s.gotHeaders T j r s.task.headers)
  | /-- The headers are not asked for, or not awaited. -/
    notAwaited {j : Batch} {r : BatchResult} (h : s.php = .headers j r)
      (ha : (j.parsed.recvInitialMetadata && s.stream.awaitsHeaders) = false) :
      Advances T s (s.gotHeaders T j r none)
  | /-- `try_recv` gave an item, or the end of the queue. -/
    received {j : Batch} {r : BatchResult} {item : Option Item} {q : List Item}
      (h : s.php = .message j r) (hb : j.parsed.recvMessage = true)
      (hc : s.stream.cachedTrailers = none)
      (hr : Queue.recv s.closed s.task.queue = some (item, q)) :
      Advances T s (s.gotMessage T j r item q)
  | /-- `try_recv` found the queue empty. -/
    empty {j : Batch} {r : BatchResult} (h : s.php = .message j r)
      (hb : j.parsed.recvMessage = true) (hc : s.stream.cachedTrailers = none) :
      Advances T s { s with php := .waiting j r }
  | /-- No message is asked for, or the stream is known to have ended. -/
    noMessage {j : Batch} {r : BatchResult} (h : s.php = .message j r)
      (hn : j.parsed.recvMessage = false ∨ s.stream.cachedTrailers.isSome = true) :
      Advances T s (s.gotMessage T j r none s.task.queue)
  | /-- The blocking `recv` gave an item, or the end of the queue. -/
    woken {j : Batch} {r : BatchResult} {item : Option Item} {q : List Item}
      (h : s.php = .waiting j r) (hr : Queue.recv s.closed s.task.queue = some (item, q)) :
      Advances T s (s.gotMessage T j r item q)
  | /-- The drain loop is entered. -/
    drains {j : Batch} {r : BatchResult} (h : s.php = .status j r)
      (hb : j.parsed.recvStatus = true) (hc : s.stream.cachedTrailers = none)
      (hx : s.stream.trailersRx = true) :
      Advances T s { s with php := .draining j r }
  | /-- No status is asked for, or it is known, or it was taken before. -/
    noDrain {j : Batch} {r : BatchResult} (h : s.php = .status j r)
      (hn : j.parsed.recvStatus = false ∨ s.stream.cachedTrailers.isSome = true
        ∨ s.stream.trailersRx = false) :
      Advances T s (s.gotStatus T j r none)
  | /-- The trailers arrived, in the drain loop or after it. -/
    trailers {j : Batch} {r : BatchResult} (h : s.php = .draining j r ∨ s.php = .trailing j r)
      (hc : s.task.trailers = none → s.closed = true) :
      Advances T s (s.gotStatus T j r s.task.trailers)
  | /-- A message was discarded. -/
    discarded {j : Batch} {r : BatchResult} {m : Bytes} {q : List Item}
      (h : s.php = .draining j r) (hq : s.task.queue = .ok (some m) :: q) :
      Advances T s { s with task := { s.task with queue := q } }
  | /-- The last item, or the end of the queue. -/
    drained {j : Batch} {r : BatchResult} {item : Option Item} {q : List Item}
      (h : s.php = .draining j r) (hr : Queue.recv s.closed s.task.queue = some (item, q))
      (hn : ∀ m, item ≠ some (.ok (some m))) :
      Advances T s { s with task := { s.task with queue := q }, php := .trailing j r }

theorem Sys.phpStep_advances {s s' : Sys} (h : s.phpStep T = some s') : s.Advances T s' := by
  unfold Sys.phpStep at h
  split at h
  next => cases h
  next => cases h
  next => cases h
  next j m hp =>
    split at h
    · next hc => cases h; exact .sendFailed hp hc
    · next hc =>
      obtain ⟨q, hq, rfl⟩ := Option.map_eq_some_iff.mp h
      obtain ⟨hlen, rfl⟩ := Queue.send_eq_some.mp hq
      exact .sent hp (by simpa using hc) hlen
  next j r hp =>
    split at h
    · next ha =>
      obtain ⟨o, ho, rfl⟩ := Option.map_eq_some_iff.mp h
      obtain ⟨rfl, hc⟩ := Oneshot.await_eq_some.mp ho
      rw [Bool.and_eq_true] at ha
      exact .awaited hp ha.1 ha.2 hc
    · next ha => cases h; exact .notAwaited hp (by simpa using ha)
  next j r hp =>
    split at h
    · next ha =>
      rw [Bool.and_eq_true, Option.isNone_iff_eq_none] at ha
      split at h
      · next hr => cases h; exact .received hp ha.1 ha.2 hr
      · cases h; exact .empty hp ha.1 ha.2
    · next ha =>
      cases h
      refine .noMessage hp ?_
      cases hb : j.parsed.recvMessage with
      | false => exact .inl rfl
      | true => exact .inr (by simpa [hb, Option.isSome_iff_ne_none] using ha)
  next j r hp =>
    obtain ⟨⟨o, q⟩, ho, rfl⟩ := Option.map_eq_some_iff.mp h
    exact .woken hp ho
  next j r hp =>
    split at h
    · next ha =>
      cases h
      simp only [Bool.and_eq_true, Option.isNone_iff_eq_none] at ha
      exact .drains hp ha.1.1 ha.1.2 ha.2
    · next ha =>
      cases h
      refine .noDrain hp ?_
      cases hb : j.parsed.recvStatus with
      | false => exact .inl rfl
      | true =>
          cases hc : s.stream.cachedTrailers with
          | some t => exact .inr (.inl rfl)
          | none => exact .inr (.inr (by simpa [hb, hc] using ha))
  next j r hp =>
    obtain ⟨o, ho, rfl⟩ := Option.map_eq_some_iff.mp h
    obtain ⟨rfl, hc⟩ := Oneshot.await_eq_some.mp ho
    exact .trailers (.inr hp) hc

theorem Sys.select_advances {s s' : Sys} {arm : Arm} (h : s.select T arm = some s') :
    (∃ j r, s.php = .draining j r) ∧ s.Advances T s' := by
  unfold Sys.select at h
  split at h
  next j r hp =>
    obtain ⟨o, ho, rfl⟩ := Option.map_eq_some_iff.mp h
    obtain ⟨rfl, hc⟩ := Oneshot.await_eq_some.mp ho
    exact ⟨⟨j, r, hp⟩, .trailers (.inl hp) hc⟩
  next j r hp =>
    obtain ⟨⟨o, q⟩, ho, rfl⟩ := Option.map_eq_some_iff.mp h
    refine ⟨⟨j, r, hp⟩, ?_⟩
    dsimp only
    split
    · rcases Queue.recv_eq_some.mp ho with ⟨_, hitem, hq⟩ | ⟨_, hn, _⟩
      · cases hitem
        exact .discarded hp hq
      · cases hn
    · next hn => exact .drained hp ho fun m hm ↦ hn m hm
  next => cases h

/-- What the PHP thread leaves alone: the clock, the holder of the requests, the deadline, and
of the task all but the queue, which it only takes from. -/
structure Sys.Frame (s s' : Sys) : Prop where
  now : s'.now = s.now
  holder : s'.holder = s.holder
  deadlineUsec : s'.world.call.deadlineUsec = s.world.call.deadlineUsec
  task : ∃ q, q <:+ s.task.queue ∧ s'.task = { s.task with queue := q }

theorem Sys.Frame.of_task {s s' : Sys} (hn : s'.now = s.now) (ha : s'.holder = s.holder)
    (hd : s'.world.call.deadlineUsec = s.world.call.deadlineUsec) (ht : s'.task = s.task) :
    s.Frame s' := ⟨hn, ha, hd, _, List.suffix_rfl, ht⟩

theorem Sys.afterSend_frame (s : Sys) (j : Batch) : s.Frame (s.afterSend j) := by
  unfold Sys.afterSend
  dsimp only
  split <;> exact .of_task rfl rfl rfl rfl

theorem Sys.Advances.frame {s s' : Sys} (h : s.Advances T s') : s.Frame s' := by
  cases h with
  | sent =>
      obtain ⟨hn, ha, hd, ht⟩ := Sys.afterSend_frame _ _
      exact ⟨hn, ha, hd, ht⟩
  | received _ _ _ hr => exact ⟨rfl, rfl, rfl, _, Queue.recv_suffix hr, rfl⟩
  | woken _ hr => exact ⟨rfl, rfl, rfl, _, Queue.recv_suffix hr, rfl⟩
  | drained _ hr => exact ⟨rfl, rfl, rfl, _, Queue.recv_suffix hr, rfl⟩
  | discarded _ hq => exact ⟨rfl, rfl, rfl, _, hq ▸ List.suffix_cons _ _, rfl⟩
  | _ => exact .of_task rfl rfl rfl rfl

/-- The transitions of the PHP thread at the start of a batch. -/
inductive Sys.Enters (s : Sys) (ops : ZendHashTable) : Sys → Prop
  | refused {e : PhpException} (h : admission s.world.call ops = .error e) :
      Enters s ops (s.raise e)
  | /-- A batch without operations. -/
    empty (h : admission s.world.call ops = .ok none) :
      Enters s ops { s with world := s.world.emit (.returned ops {}) }
  | /-- A message on a stream that does not send. -/
    noSender {b : BatchOps} {m : Bytes} (h : Admitted s.world.call ops b)
      (hm : b.sendMessage = some m) (ht : s.stream.msgTx = false) :
      Enters s ops ({ s with world := s.world.mapCall (·.accept b) }.raise
        (.default "stream does not support sending"))
  | sends {b : BatchOps} {m : Bytes} (h : Admitted s.world.call ops b)
      (hm : b.sendMessage = some m) (ht : s.stream.msgTx = true) :
      Enters s ops
        { s with world := s.world.mapCall (·.accept b), php := .sending ⟨ops, b⟩ m }
  | passes {b : BatchOps} (h : Admitted s.world.call ops b)
      (hm : b.sendMessage = none) :
      Enters s ops ({ s with world := s.world.mapCall (·.accept b) }.afterSend ⟨ops, b⟩)

theorem Sys.begin_enters (s : Sys) (ops : ZendHashTable) : s.Enters ops (s.begin ops) := by
  unfold Sys.begin
  split
  next e h => exact .refused h
  next h => exact .empty h
  next b h =>
    dsimp only
    split
    · next hm => exact .passes (admission_some h) hm
    · next m hm =>
      split
      · next ht => exact .sends (admission_some h) hm ht
      · next ht => exact .noSender (admission_some h) hm (by simpa using ht)

theorem Sys.Enters.frame {s s' : Sys} {ops : ZendHashTable} (h : s.Enters ops s') :
    s.Frame s' := by
  cases h with
  | passes =>
      obtain ⟨hn, ha, hd, ht⟩ := Sys.afterSend_frame _ _
      exact ⟨hn, ha, hd, ht⟩
  | _ => exact .of_task rfl rfl rfl rfl

/-! ## The system -/

/-- The transitions of the system. -/
inductive Sys.Moves (T : Tonic) (answer : Answer) (s : Sys) : Label → Sys → Prop
  | begins {ops : ZendHashTable} {s' : Sys} (h : s.php = .idle) (he : s.Enters ops s') :
      Moves T answer s (.begin ops) s'
  | php {s' : Sys} (h : s.Advances T s') : Moves T answer s .php s'
  | selects {arm : Arm} {s' : Sys} (hp : ∃ j r, s.php = .draining j r) (h : s.Advances T s') :
      Moves T answer s (.select arm) s'
  | turns {a : Aside} (h : s.php = .idle) :
      Moves T answer s (.aside a) { s with world := s.world.mapCall a.update }
  | drops (h : s.php = .idle) : Moves T answer s .drop { s with php := .gone }
  | driver {a : Act} {task : Task} (h : s.task.Steps T answer s.ctx a task) :
      Moves T answer s (.driver a) (s.afterTask answer a task)
  | pulls {m : Bytes} {q : List Bytes} (h : s.requests = m :: q) (hh : s.holder = .transport) :
      Moves T answer s .pull { s with requests := q }
  | abandons (hh : s.holder = .transport) :
      Moves T answer s .abandon { s with holder := .nobody, requests := [] }
  | ticks {t : I64} (h : s.now.val ≤ t.val) : Moves T answer s (.tick t) { s with now := t }

/-- **Inversion of a step of the system.** -/
theorem Sys.step_moves {s s' : Sys} {l : Label} (h : s.step T answer l = some s') :
    s.Moves T answer l s' := by
  cases l with
  | begin ops =>
      simp only [Sys.step] at h
      split at h
      · next hp => cases h; exact .begins hp (s.begin_enters ops)
      · cases h
  | php => exact .php (Sys.phpStep_advances h)
  | select arm =>
      obtain ⟨hp, ha⟩ := Sys.select_advances h
      exact .selects hp ha
  | aside a =>
      simp only [Sys.step] at h
      split at h
      · next hp => cases h; exact .turns hp
      · cases h
  | drop =>
      simp only [Sys.step] at h
      split at h
      · next hp => cases h; exact .drops hp
      · cases h
  | driver a =>
      obtain ⟨t, ht, rfl⟩ := Option.map_eq_some_iff.mp h
      exact .driver (Task.step_steps ht)
  | pull =>
      simp only [Sys.step] at h
      split at h
      · next hh hq => cases h; exact .pulls hq hh
      · cases h
  | abandon =>
      simp only [Sys.step] at h
      split at h
      · next hh => cases h; exact .abandons hh
      · cases h
  | tick t =>
      simp only [Sys.step] at h
      split at h
      · next ht => cases h; exact .ticks ht
      · cases h

/-- What stays of a task that has returned. -/
structure Sys.After (s s' : Sys) : Prop where
  now : s.now.val ≤ s'.now.val
  deadlineUsec : s'.world.call.deadlineUsec = s.world.call.deadlineUsec
  driver : s'.task.driver = s.task.driver
  unread : s'.task.unread = s.task.unread
  queue : s'.task.queue <:+ s.task.queue

theorem Sys.Frame.after {s s' : Sys} (h : s.Frame s') : s.After s' := by
  obtain ⟨q, hq, ht⟩ := h.task
  exact ⟨h.now ▸ le_rfl, h.deadlineUsec, by rw [ht], by rw [ht], by rw [ht]; exact hq⟩

theorem Sys.Moves.after {s s' : Sys} {l : Label} (h : s.Moves T answer l s')
    (hr : s.task.driver.hasReturned = true) : s.After s' := by
  cases h with
  | begins _ he => exact he.frame.after
  | php ha => exact ha.frame.after
  | selects _ ha => exact ha.frame.after
  | driver hs => simp [hs.running] at hr
  | turns => exact ⟨le_rfl, by simp, rfl, rfl, List.suffix_rfl⟩
  | ticks ht => exact ⟨ht, rfl, rfl, rfl, List.suffix_rfl⟩
  | drops | pulls | abandons => exact ⟨le_rfl, rfl, rfl, rfl, List.suffix_rfl⟩

/-! ## Runs -/

/-- The program points of the PHP thread right after a stream was started. -/
def Thread.Starts : Thread → Prop
  | .idle | .sending _ _ => True
  | .headers _ r => r = {}
  | _ => False

/-- A state right after a stream was started by a call that is not finished. -/
inductive Sys.Initial (answer : Answer) : Sys → Prop
  | spawned {bidi : Bool} {call : GrpcCall} {connectivity : ChannelState} {php : Thread} {now : I64}
      (hphp : php.Starts) (hfin : call.finished = false) :
      Initial answer (.spawn answer bidi call connectivity php now)

/-- A server stream that a call without a plugin has just started; its batch has returned. -/
def Sys.server (answer : Answer) (deadlineUsec : I64) : Sys :=
  .spawn answer false { method := "/s/m", deadlineUsec, callPlugin := none, sendClosed := true }
    .idle .idle .one

/-- A bidi stream that the first write of a call without a plugin has just started. -/
def Sys.bidi (answer : Answer) (deadlineUsec : I64) : Sys :=
  .spawn answer true { method := "/s/m", deadlineUsec, callPlugin := none } .idle
    (.sending ⟨[messageOp [1]], { sendMessage := some [1], hasSendOps := true }⟩ [1]) .one

theorem Sys.bidi_initial (answer : Answer) (deadlineUsec : I64) :
    Sys.Initial answer (.bidi answer deadlineUsec) := .spawned trivial rfl

theorem Sys.server_initial (answer : Answer) (deadlineUsec : I64) :
    Sys.Initial answer (.server answer deadlineUsec) := .spawned trivial rfl

end GrpcPhp
