import GrpcPhp.Stream.Step

/-!
# What the channels hold

The task leaves the channels in a definite shape at each of its program points: nothing
is in them before the response, the headers are there while it reads, and once it has put
its last item into the queue the trailers follow.  `Task.At` says so for the oneshots and
`Feed` for the queue.  The PHP thread only takes things out, so that its steps keep both.

On the other side, `Sys.Stage` says what the PHP thread knows at its program points: it
waits for a message only if it was asked for one, and once the drain loop has seen the end
of the queue the task has nothing left to do but to deliver the trailers.

Both are false of a call object that was dropped, since the task then gives up; what the
task does after that, nobody sees.
-/

namespace GrpcPhp

open Lib Php

variable {T : Tonic} {answer : Answer}

/-! ## The queue -/

/-- The terminal event whose item has been put into the queue. -/
def Driver.sent : Driver → Option Cause
  | .delivering c _ => some c
  | .returned c => c
  | _ => none

/-- `Feed last q`: the queue holds messages and then, if there is a last item, either that
item or nothing any more. -/
inductive Feed (last : Option Cause) : List Item → Prop
  | nil : Feed last []
  | last {c : Cause} (h : last = some c) : Feed last [c.item]
  | message {m : Bytes} {q : List Item} (h : Feed last q) : Feed last (.ok (some m) :: q)

namespace Feed

variable {last : Option Cause} {q : List Item} {i : Item}

/-- Another message. -/
theorem push (h : Feed none q) (m : Bytes) : Feed none (q ++ [.ok (some m)]) := by
  induction h with
  | nil => exact .message .nil
  | last h => cases h
  | message _ ih => exact .message ih

/-- The last item. -/
theorem close (h : Feed none q) (c : Cause) : Feed (some c) (q ++ [c.item]) := by
  induction h with
  | nil => exact .last rfl
  | last h => cases h
  | message _ ih => exact .message ih

/-- What is taken out is a message, or the last item, which leaves the queue empty. -/
theorem pop (h : Feed last (i :: q)) :
    (∃ m, i = .ok (some m)) ∨ ∃ c, last = some c ∧ i = c.item ∧ q = [] := by
  cases h with
  | last h => exact .inr ⟨_, h, rfl, rfl⟩
  | message => exact .inl ⟨_, rfl⟩

theorem tail (h : Feed last (i :: q)) : Feed last q := by
  cases h with
  | last => exact .nil
  | message h => exact h

end Feed

/-! ## The task -/

/-- The terminal event is one that the answer brings about, or the deadline or the token. -/
def Cause.Of (answer : Answer) : Cause → Prop
  | .notReady status => answer = .notReady status
  | .rejected status => answer = .rejected status
  | .clean => ∃ r trailers, answer = .response r ∧ r.finish = .clean trailers
  | .error status => ∃ r, answer = .response r ∧ r.finish = .error status
  | .deadline | .cancelled => True

/-- The terminal event may come before the end of the response. -/
def Cause.interrupts : Cause → Bool
  | .deadline | .cancelled => true
  | _ => false

/-- `ready()` fails. -/
def Answer.isNotReady : Answer → Bool
  | .notReady _ => true
  | _ => false

/-- `ready()` failed. -/
def Cause.isNotReady : Cause → Bool
  | .notReady _ => true
  | _ => false

/-- Nothing has been put into the channels. -/
structure Task.Untouched (answer : Answer) (t : Task) : Prop where
  headers : t.headers = none
  queue : t.queue = []
  trailers : t.trailers = none
  unread : t.unread = answer.messages

/-- The task has ended for the given reason, and unless it was interrupted it has handed over
the headers of the response and there is nothing left to read. -/
structure Task.Ends (answer : Answer) (t : Task) (c : Cause) : Prop where
  of : c.Of answer
  headers : t.headers.isSome = true
  sent : c.interrupts = false → t.headers = some answer.headers
  unread : c.interrupts = false → t.unread = []

/-- The task is forwarding the messages of a response. -/
structure Task.Streams (answer : Answer) (t : Task) : Prop where
  headers : t.headers = some answer.headers
  trailers : t.trailers = none
  response : ∃ r, answer = .response r

/-- What holds at the program points of the task while somebody receives, where `clock` are
the readings the clock may have given so far. -/
inductive Task.At (T : Tonic) (answer : Answer) (deadlineUsec : I64) (clock : I64 → Prop)
    (t : Task) : Driver → Prop
  | spawned (h : t.Untouched answer) : At T answer deadlineUsec clock t .spawned
  | connecting (h : t.Untouched answer) : At T answer deadlineUsec clock t .connecting
  | requesting (h : t.Untouched answer) (ha : ∀ status, answer ≠ .notReady status) :
      At T answer deadlineUsec clock t .requesting
  | opening (h : t.Untouched answer) (ha : ∃ r, answer = .response r) :
      At T answer deadlineUsec clock t .opening
  | refusing {c : Cause} (h : t.Untouched answer) (hc : c.Of answer)
      (hm : c.interrupts = false → answer.headers = [] ∧ answer.messages = []) :
      At T answer deadlineUsec clock t (.refusing c)
  | reading (h : t.Streams answer) : At T answer deadlineUsec clock t .reading
  | forwarding {m : Bytes} (h : t.Streams answer) :
      At T answer deadlineUsec clock t (.forwarding m)
  | ending {c : Cause} {now : I64} (h : t.Ends answer c) (ht : t.trailers = none)
      (hc : clock now) (hq : c.isNotReady = true → t.queue = []) :
      At T answer deadlineUsec clock t (.ending c now)
  | delivering {c : Cause} {now : I64} (h : t.Ends answer c) (ht : t.trailers = none)
      (hc : clock now) (hn : c.isNotReady = false) :
      At T answer deadlineUsec clock t (.delivering c now)
  | /-- The trailers were not delivered. -/
    unready {c : Cause} (h : t.Ends answer c) (hn : c.isNotReady = true)
      (ht : t.trailers = none) : At T answer deadlineUsec clock t (.returned (some c))
  | returned {c : Cause} {now : I64} (h : t.Ends answer c) (hn : c.isNotReady = false)
      (hc : clock now)
      (ht : t.trailers = some (c.trailers T answer.trailers deadlineUsec now)) :
      At T answer deadlineUsec clock t (.returned (some c))

namespace Task

variable {t t' : Task} {a : Act} {ctx : Ctx} {deadlineUsec : I64} {clock clock' : I64 → Prop}

/-- Time passes. -/
theorem At.mono {d : Driver} (h : t.At T answer deadlineUsec clock d)
    (hc : ∀ now, clock now → clock' now) : t.At T answer deadlineUsec clock' d := by
  cases h with
  | spawned h => exact .spawned h
  | connecting h => exact .connecting h
  | requesting h ha => exact .requesting h ha
  | opening h ha => exact .opening h ha
  | refusing h hc hm => exact .refusing h hc hm
  | reading h => exact .reading h
  | forwarding h => exact .forwarding h
  | ending h ht hnow hq => exact .ending h ht (hc _ hnow) hq
  | delivering h ht hnow hn => exact .delivering h ht (hc _ hnow) hn
  | unready h hn ht => exact .unready h hn ht
  | returned h hn hnow ht => exact .returned h hn (hc _ hnow) ht

/-- Taking from the queue, which nothing was put into before the response. -/
theorem At.pop {d : Driver} {i : Item} {q : List Item} (h : t.At T answer deadlineUsec clock d)
    (hq : t.queue = i :: q) :
    ({ t with queue := q } : Task).At T answer deadlineUsec clock d := by
  have hne : ¬ t.Untouched answer := fun hu ↦ by simp [hu.queue] at hq
  cases h with
  | spawned h => exact absurd h hne
  | connecting h => exact absurd h hne
  | requesting h => exact absurd h hne
  | opening h => exact absurd h hne
  | refusing h => exact absurd h hne
  | reading h => exact .reading ⟨h.headers, h.trailers, h.response⟩
  | forwarding h => exact .forwarding ⟨h.headers, h.trailers, h.response⟩
  | ending h ht hc hn =>
      refine .ending ⟨h.of, h.headers, h.sent, h.unread⟩ ht hc fun hn' ↦ ?_
      rw [hn hn'] at hq
      cases hq
  | delivering h ht hc hn => exact .delivering ⟨h.of, h.headers, h.sent, h.unread⟩ ht hc hn
  | unready h hn ht => exact .unready ⟨h.of, h.headers, h.sent, h.unread⟩ hn ht
  | returned h hn hc ht => exact .returned ⟨h.of, h.headers, h.sent, h.unread⟩ hn hc ht

/-- The task's own steps, while somebody receives. -/
theorem Steps.at (hs : t.Steps T answer ctx a t') (hg : ctx.gone = false) (hc : clock ctx.now)
    (h : t.At T answer ctx.deadlineUsec clock t.driver) :
    t'.At T answer ctx.deadlineUsec clock t'.driver := by
  cases hs with
  | start hd =>
      rw [hd] at h
      cases h with | spawned h => exact .connecting ⟨h.headers, h.queue, h.trailers, h.unread⟩
  | ready hd ha =>
      rw [hd] at h
      cases h with | connecting h =>
        exact .requesting ⟨h.headers, h.queue, h.trailers, h.unread⟩ ha
  | notReady hd ha =>
      rw [hd] at h
      cases h with | connecting h =>
        exact .refusing ⟨h.headers, h.queue, h.trailers, h.unread⟩ ha
          fun _ ↦ by rw [ha]; exact ⟨rfl, rfl⟩
  | elapsed hd ht =>
      have hu : t.Untouched answer := by
        obtain hd | hd := hd <;> rw [hd] at h <;> cases h <;> assumption
      exact .refusing ⟨hu.headers, hu.queue, hu.trailers, hu.unread⟩ trivial nofun
  | headers hd ha =>
      rw [hd] at h
      cases h with | requesting h =>
        exact .opening ⟨h.headers, h.queue, h.trailers, h.unread⟩ ⟨_, ha⟩
  | rejected hd ha =>
      rw [hd] at h
      cases h with | requesting h =>
        exact .refusing ⟨h.headers, h.queue, h.trailers, h.unread⟩ ha
          fun _ ↦ by rw [ha]; exact ⟨rfl, rfl⟩
  | opened hd =>
      rw [hd] at h
      cases h with | opening h ha => exact .reading ⟨rfl, h.trailers, ha⟩
  | refused hd =>
      rw [hd] at h
      cases h with | refusing h hof hm =>
        exact .ending ⟨hof, rfl, fun hi ↦ congrArg some (hm hi).1.symm,
          fun hi ↦ h.unread.trans (hm hi).2⟩ h.trailers hc fun _ ↦ h.queue
  | message hd hu =>
      rw [hd] at h
      cases h with | reading h => exact .forwarding ⟨h.headers, h.trailers, h.response⟩
  | @finish r hd hu ha =>
      rw [hd] at h
      cases h with | reading h =>
        cases hf : r.finish with
        | clean trailers =>
            exact .ending
              ⟨⟨r, trailers, ha, hf⟩, by simp [h.headers], fun _ ↦ h.headers, fun _ ↦ hu⟩
              h.trailers hc nofun
        | error status =>
            exact .ending
              ⟨⟨r, ha, hf⟩, by simp [h.headers], fun _ ↦ h.headers, fun _ ↦ hu⟩ h.trailers
              hc nofun
  | cancelled hd =>
      rw [hd] at h
      cases h with | reading h =>
        exact .ending ⟨trivial, by simp [h.headers], nofun, nofun⟩ h.trailers hc nofun
  | deadline hd =>
      rw [hd] at h
      cases h with | reading h =>
        exact .ending ⟨trivial, by simp [h.headers], nofun, nofun⟩ h.trailers hc nofun
  | forwarded hd =>
      rw [hd] at h
      cases h with | forwarding h => exact .reading ⟨h.headers, h.trailers, h.response⟩
  | forwardFailed hd hg' => simp [hg] at hg'
  | @ended c now hd =>
      rw [hd] at h
      cases h with | ending h ht hnow _ =>
        have he : ({ t with driver := afterItem c now, queue := t.queue ++ [c.item] } :
            Task).Ends answer c := ⟨h.of, h.headers, h.sent, h.unread⟩
        cases c with
        | notReady => exact .unready he rfl ht
        | _ => exact .delivering he ht hnow rfl
  | endFailed hd hg' => simp [hg] at hg'
  | delivered hd =>
      rw [hd] at h
      cases h with | delivering h ht hnow hn =>
        exact .returned ⟨h.of, h.headers, h.sent, h.unread⟩ hn hnow rfl

/-- The task's own steps feed the queue, while somebody receives. -/
theorem Steps.feed (hs : t.Steps T answer ctx a t') (hg : ctx.gone = false)
    (h : Feed t.driver.sent t.queue) : Feed t'.driver.sent t'.queue := by
  cases hs with
  | start hd | ready hd | notReady hd | headers hd | rejected hd | opened hd | refused hd
  | message hd | finish hd | cancelled hd | deadline hd | delivered hd => rwa [hd] at h
  | elapsed hd =>
      obtain hd | hd := hd
      · rwa [hd] at h
      · rwa [hd] at h
  | forwarded hd =>
      rw [hd] at h
      exact h.push _
  | @ended c now hd =>
      rw [hd] at h
      have hsent : (afterItem c now).sent = some c := by cases c <;> rfl
      rw [show Feed _ _ = Feed (some c) _ from congrArg (Feed · _) hsent]
      exact h.close c
  | forwardFailed hd hg' => simp [hg] at hg'
  | endFailed hd hg' => simp [hg] at hg'

/-- A failed `ready()` is reported in the queue only. -/
theorem At.unready_of_sent {d : Driver} {status : Status}
    (h : t.At T answer deadlineUsec clock d) (hs : d.sent = some (.notReady status)) :
    answer = .notReady status ∧ d = .returned (some (.notReady status)) := by
  cases h with
  | delivering _ _ _ hn => cases hs; cases hn
  | unready h => cases hs; exact ⟨h.of, rfl⟩
  | returned _ hn => cases hs; cases hn
  | _ => cases hs

/-- A task that has returned has sent headers. -/
theorem At.headers_isSome {d : Driver} (h : t.At T answer deadlineUsec clock d)
    (hr : d.hasReturned = true) : t.headers.isSome = true := by
  cases h with
  | unready h => exact h.headers
  | returned h => exact h.headers
  | _ => cases hr

/-- What awaiting the trailers gives. -/
theorem At.trailers_cases {d : Driver} (h : t.At T answer deadlineUsec clock d)
    (hr : t.trailers = none → d.hasReturned = true) : ∃ c, d = .returned (some c) ∧ t.Ends answer c
      ∧ (c.isNotReady = true ∧ t.trailers = none
        ∨ ∃ now, clock now
          ∧ t.trailers = some (c.trailers T answer.trailers deadlineUsec now)) := by
  cases h with
  | unready h hn ht => exact ⟨_, rfl, h, .inl ⟨hn, ht⟩⟩
  | returned h hn hc ht => exact ⟨_, rfl, h, .inr ⟨_, hc, ht⟩⟩
  | spawned h | connecting h | requesting h | opening h | refusing h | reading h | forwarding h =>
      cases hr h.trailers
  | ending _ ht | delivering _ ht => cases hr ht

/-- A terminal event in the queue is that of a task which is past its last item. -/
theorem isPast_of_sent {d : Driver} {c : Cause} (h : d.sent = some c) : d.isPast = true := by
  cases d <;> first | rfl | cases h

/-- The terminal event stays the same. -/
theorem Steps.sent {c : Cause} (hs : t.Steps T answer ctx a t') (h : t.driver.sent = some c) :
    t'.driver.sent = some c := by
  cases hs with
  | delivered hd => rwa [hd] at h
  | elapsed hd => obtain hd | hd := hd <;> simp [hd, Driver.sent] at h
  | _ hd => simp [hd, Driver.sent] at h

/-- The task stays past its last item. -/
theorem Steps.isPast (hs : t.Steps T answer ctx a t') (h : t.driver.isPast = true) :
    t'.driver.isPast = true := by
  cases hs with
  | delivered => rfl
  | @ended c now | @endFailed c now => cases c <;> rfl
  | elapsed hd => obtain hd | hd := hd <;> simp [hd, Driver.isPast] at h
  | _ hd => simp [hd, Driver.isPast] at h

end Task

/-- The status of a failed `ready()` was taken from the queue, and `st` is what was made of
it. -/
def Task.Refused (T : Tonic) (answer : Answer) (deadlineUsec : I64) (clock : I64 → Prop)
    (t : Task) (st : StreamTrailers) : Prop :=
  t.queue = [] ∧ ∃ status now, answer = .notReady status
    ∧ t.driver = .returned (some (.notReady status)) ∧ clock now
    ∧ st = .ofStatus T status deadlineUsec now

/-! ## The PHP thread -/

namespace Thread

/-- Inside a batch. -/
def isBusy : Thread → Bool
  | .idle | .gone => false
  | _ => true

/-- The result object of the batch in progress. -/
def result : Thread → BatchResult
  | .headers _ r | .message _ r | .waiting _ r | .status _ r | .draining _ r | .trailing _ r => r
  | .idle | .sending _ _ | .gone => {}

/-- In the drain loop, or waiting for the trailers after it. -/
def isDraining : Thread → Bool
  | .draining _ _ | .trailing _ _ => true
  | _ => false

/-- Inside the drain loop the status is still to come. -/
structure Drains (stream : ActiveStream) (j : Batch) (r : BatchResult) : Prop where
  status : r.status = none
  asked : j.parsed.recvStatus = true
  cached : stream.cachedTrailers = none
  rx : stream.trailersRx = true

/-- What the PHP thread knows at its program points. -/
def Stage (stream : ActiveStream) (driver : Driver) : Thread → Prop
  | .headers _ r => r = {}
  | .message _ r => r.message = none ∧ r.status = none
  | .waiting j r => (r.message = none ∧ r.status = none) ∧ j.parsed.recvMessage = true
      ∧ stream.cachedTrailers = none
  | .status _ r => r.status = none
  | .draining j r => Drains stream j r
  | .trailing j r => Drains stream j r ∧ driver.isPast = true
  | .idle | .sending _ _ | .gone => True

/-- The task moves on. -/
theorem Stage.of_isPast {stream : ActiveStream} {d d' : Driver} {php : Thread}
    (h : php.Stage stream d) (hd : d.isPast = true → d'.isPast = true) : php.Stage stream d' := by
  cases php with
  | trailing j r => exact ⟨h.1, hd h.2⟩
  | _ => exact h

end Thread

/-! ## The system -/

namespace Sys

/-- The readings the clock gave since `start`. -/
def Clock (start : I64) (s : Sys) (now : I64) : Prop :=
  start.val ≤ now.val ∧ now.val ≤ s.now.val

@[simp] theorem isDraining_afterSend (s : Sys) (j : Batch) :
    (s.afterSend j).php.isDraining = false := by
  rcases s.afterSend_php j with h | h <;> rw [h] <;> rfl

/-- The two parties and the channels between them. -/
structure Coherent (T : Tonic) (answer : Answer) (start : I64) (s : Sys) : Prop where
  clock : start.val ≤ s.now.val
  driven : s.stream.driven = true
  rx : s.world.call.finished = false → s.stream.trailersRx = true
  cached : ∀ t ∈ s.stream.cachedTrailers,
    s.task.Refused T answer s.world.call.deadlineUsec (s.Clock start) t
  task : s.isGone = false →
    s.task.At T answer s.world.call.deadlineUsec (s.Clock start) s.task.driver
  feed : s.isGone = false → Feed s.task.driver.sent s.task.queue
  stage : s.php.Stage s.stream s.task.driver
  unfinished : s.php.isBusy = true → s.world.call.finished = false

variable {s s' : Sys} {start : I64} {l : Label}

theorem isGone_of_isBusy (h : s.php.isBusy = true) : s.isGone = false := by
  unfold isGone
  split
  · next hp => rw [hp] at h; cases h
  · rfl

theorem isGone_of_isDraining (h : s.php.isDraining = true) : s.isGone = false := by
  refine isGone_of_isBusy ?_
  cases hp : s.php <;> simp_all [Thread.isDraining, Thread.isBusy]

theorem isGone_of_idle (h : s.php = .idle) : s.isGone = false := by simp [isGone, h]

/-- Messages are thrown away from here on. -/
def isDiscarding (s : Sys) : Bool := s.php.isDraining || s.world.call.finished

namespace Coherent

/-- Before the drain loop, nothing has been thrown away. -/
theorem not_discarding {php : Thread} (h : s.Coherent T answer start) (hp : s.php = php)
    (hb : php.isBusy = true) (hd : php.isDraining = false) :
    s.isGone = false ∧ s.isDiscarding = false := by
  subst hp
  exact ⟨isGone_of_isBusy hb, by simp [isDiscarding, hd, h.unfinished hb]⟩

/-- In the drain loop. -/
theorem drains {j : Batch} {r : BatchResult} (h : s.Coherent T answer start)
    (hp : s.php = .draining j r ∨ s.php = .trailing j r) :
    s.isGone = false ∧ s.php.result = r ∧ Thread.Drains s.stream j r := by
  have hstage := h.stage
  obtain hp | hp := hp <;> rw [hp] at hstage
  · exact ⟨isGone_of_isBusy (by rw [hp]; rfl), by rw [hp]; rfl, hstage⟩
  · exact ⟨isGone_of_isBusy (by rw [hp]; rfl), by rw [hp]; rfl, hstage.1⟩

/-- The PHP thread changes anything but the channels. -/
theorem set (h : s.Coherent T answer start) (hg : s.isGone = false) {php : Thread}
    {world : World} {stream : ActiveStream}
    (hd : world.call.deadlineUsec = s.world.call.deadlineUsec) (hdriven : stream.driven = true)
    (hrx : world.call.finished = false → stream.trailersRx = true)
    (hcached : ∀ t ∈ stream.cachedTrailers,
      s.task.Refused T answer s.world.call.deadlineUsec (s.Clock start) t)
    (hstage : php.Stage stream s.task.driver)
    (hfin : php.isBusy = true → world.call.finished = false) :
    ({ s with php, world, stream } : Sys).Coherent T answer start where
  clock := h.clock
  driven := hdriven
  rx := hrx
  cached t ht := by
    rw [show ({ s with php, world, stream } : Sys).world.call.deadlineUsec = _ from hd]
    exact hcached t ht
  task _ := by
    rw [show ({ s with php, world, stream } : Sys).world.call.deadlineUsec = _ from hd]
    exact h.task hg
  feed _ := h.feed hg
  stage := hstage
  unfinished := hfin

/-- The PHP thread takes an item from the queue. -/
theorem pop {i : Item} {q : List Item} (h : s.Coherent T answer start) (hg : s.isGone = false)
    (hq : s.task.queue = i :: q) :
    ({ s with task := { s.task with queue := q } } : Sys).Coherent T answer start where
  clock := h.clock
  driven := h.driven
  rx := h.rx
  cached t ht := by
    have := (h.cached t ht).1
    rw [hq] at this
    cases this
  task _ := (h.task hg).pop hq
  feed _ := by
    have := h.feed hg
    rw [hq] at this
    exact this.tail
  stage := h.stage
  unfinished := h.unfinished

/-- The PHP thread receives from the queue. -/
theorem recv {item : Option Item} {q : List Item} (h : s.Coherent T answer start)
    (hg : s.isGone = false) (hr : Queue.recv s.closed s.task.queue = some (item, q)) :
    ({ s with task := { s.task with queue := q } } : Sys).Coherent T answer start := by
  obtain ⟨i, -, hq⟩ | ⟨-, -, hq, rfl⟩ := Queue.recv_eq_some.mp hr
  · exact h.pop hg hq
  · have : ({ s with task := { s.task with queue := [] } } : Sys) = s := by rw [← hq]
    rwa [this]

/-- What is received is a message, or else the queue is empty and the task past its last
item. -/
theorem recv_cases {item : Option Item} {q : List Item} (h : s.Coherent T answer start)
    (hg : s.isGone = false) (hr : Queue.recv s.closed s.task.queue = some (item, q)) :
    (∃ m, item = some (.ok (some m)) ∧ s.task.queue = .ok (some m) :: q)
      ∨ ((∀ m, item ≠ some (.ok (some m))) ∧ q = [] ∧ s.task.driver.isPast = true
        ∧ (s.task.queue = [] ∨ ∃ c, s.task.driver.sent = some c ∧ item = some c.item
            ∧ s.task.queue = [c.item])) := by
  obtain ⟨i, rfl, hq⟩ | ⟨hc, rfl, hq, rfl⟩ := Queue.recv_eq_some.mp hr
  · have hf := h.feed hg
    rw [hq] at hf
    obtain ⟨m, rfl⟩ | ⟨c, hc, rfl, rfl⟩ := hf.pop
    · exact .inl ⟨m, rfl, hq⟩
    · refine .inr ⟨fun m hm ↦ ?_, rfl, Task.isPast_of_sent hc, .inr ⟨c, hc, rfl, hq⟩⟩
      cases c <;> cases hm
  · refine .inr ⟨nofun, rfl, ?_, .inl hq⟩
    unfold Sys.closed at hc
    cases hd : s.task.driver <;> simp_all [Driver.hasReturned, Driver.isPast]

/-- The batch is over. -/
theorem raise (h : s.Coherent T answer start) (hg : s.isGone = false) (e : PhpException) :
    (s.raise e).Coherent T answer start :=
  h.set hg rfl h.driven h.rx h.cached trivial nofun

theorem afterSend (h : s.Coherent T answer start) (hg : s.isGone = false) (j : Batch)
    (hfin : s.world.call.finished = false) : (s.afterSend j).Coherent T answer start := by
  unfold Sys.afterSend
  dsimp only
  split
  · exact h.set hg rfl h.driven h.rx h.cached rfl fun _ ↦ hfin
  · exact h.set hg rfl h.driven (fun _ ↦ h.rx hfin) h.cached trivial nofun

theorem gotHeaders (h : s.Coherent T answer start) (hg : s.isGone = false) (j : Batch)
    {r : BatchResult} (hr : r = {}) (hfin : s.world.call.finished = false)
    (headers : Option MetadataMap) : (s.gotHeaders T j r headers).Coherent T answer start := by
  subst hr
  exact h.set hg rfl (by simp [h.driven]) (by simpa using h.rx) (by simpa using h.cached)
    ⟨by simp, by simp⟩ fun _ ↦ hfin

theorem gotMessage {item : Option Item} {q : List Item} {r : BatchResult}
    (h : s.Coherent T answer start) (hg : s.isGone = false) (j : Batch) (hr : r.status = none)
    (hfin : s.world.call.finished = false)
    (hrecv : Queue.recv s.closed s.task.queue = some (item, q)) :
    (s.gotMessage T j r item q).Coherent T answer start := by
  have h' := h.recv hg hrecv
  refine h'.set hg rfl (by simpa using h.driven) (by simpa using h.rx) (fun t ht ↦ ?_)
    (by simpa [Thread.Stage] using hr) fun _ ↦ hfin
  obtain ht | ⟨status, rfl, rfl⟩ := mem_messageStage_cachedTrailers _ _ _ _ _ _ ht
  · exact h'.cached t ht
  · -- an error in the queue is the last item of a task whose `ready()` failed
    obtain ⟨m, hm, -⟩ | ⟨-, rfl, -, hq | ⟨c, hsent, hc, -⟩⟩ := h.recv_cases hg hrecv
    · cases hm
    · simp [hq, Queue.recv] at hrecv
    · cases c with
      | notReady =>
          cases hc
          obtain ⟨ha, hd⟩ := (h.task hg).unready_of_sent hsent
          exact ⟨rfl, status, s.now, ha, hd, ⟨h.clock, le_rfl⟩, rfl⟩
      | _ => cases hc

/-- After the message stage, when nothing was received. -/
theorem gotNoMessage {r : BatchResult} (h : s.Coherent T answer start) (hg : s.isGone = false)
    (j : Batch) (hr : r.status = none) (hfin : s.world.call.finished = false) :
    (s.gotMessage T j r none s.task.queue).Coherent T answer start := by
  refine h.set hg rfl (by simpa using h.driven) (by simpa using h.rx) (fun t ht ↦ ?_)
    (by simpa [Thread.Stage] using hr) fun _ ↦ hfin
  obtain ht | ⟨_, hi, -⟩ := mem_messageStage_cachedTrailers _ _ _ _ _ _ ht
  · exact h.cached t ht
  · cases hi

theorem gotStatus (h : s.Coherent T answer start) (hg : s.isGone = false) (j : Batch)
    (r : BatchResult) (trailers : Option StreamTrailers) :
    (s.gotStatus T j r trailers).Coherent T answer start := by
  refine h.set hg rfl (by simpa using h.driven) (fun hfin ↦ ?_)
    (fun t ht ↦ h.cached t (mem_statusStage_cachedTrailers _ _ _ _ ht)) trivial nofun
  obtain ⟨hfin, hb⟩ : s.world.call.finished = false ∧ j.parsed.recvStatus = false := by
    simpa using hfin
  simpa [statusStage, hb] using h.rx hfin

theorem advances (h : s.Coherent T answer start) (ha : s.Advances T s') :
    s'.Coherent T answer start := by
  have busy {php : Thread} (hp : s.php = php) (hb : php.isBusy = true) :
      s.isGone = false ∧ s.world.call.finished = false ∧ php.Stage s.stream s.task.driver := by
    subst hp
    exact ⟨isGone_of_isBusy hb, h.unfinished hb, h.stage⟩
  cases ha with
  | sendFailed hp => exact h.raise (busy hp rfl).1 _
  | @sent j m hp =>
      obtain ⟨hg, hfin, -⟩ := busy hp rfl
      have h' : ({ s with
          requests := s.requests ++ [m], world := s.world.emit (.message m) } : Sys).Coherent T
            answer start :=
        ⟨h.clock, h.driven, h.rx, h.cached, h.task, h.feed, h.stage, h.unfinished⟩
      exact h'.afterSend hg j hfin
  | awaited hp =>
      obtain ⟨hg, hfin, hr⟩ := busy hp rfl
      exact h.gotHeaders hg _ hr hfin _
  | notAwaited hp =>
      obtain ⟨hg, hfin, hr⟩ := busy hp rfl
      exact h.gotHeaders hg _ hr hfin _
  | received hp _ _ hrecv =>
      obtain ⟨hg, hfin, hr⟩ := busy hp rfl
      exact h.gotMessage hg _ hr.2 hfin hrecv
  | empty hp hb hc =>
      obtain ⟨hg, hfin, hr⟩ := busy hp rfl
      exact h.set hg rfl h.driven h.rx h.cached ⟨hr, hb, hc⟩ fun _ ↦ hfin
  | noMessage hp =>
      obtain ⟨hg, hfin, hr⟩ := busy hp rfl
      exact h.gotNoMessage hg _ hr.2 hfin
  | woken hp hrecv =>
      obtain ⟨hg, hfin, hr, -, -⟩ := busy hp rfl
      exact h.gotMessage hg _ hr.2 hfin hrecv
  | drains hp hb hc hx =>
      obtain ⟨hg, hfin, hr⟩ := busy hp rfl
      exact h.set hg rfl h.driven h.rx h.cached ⟨hr, hb, hc, hx⟩ fun _ ↦ hfin
  | noDrain hp => exact h.gotStatus (busy hp rfl).1 _ _ _
  | trailers hp =>
      obtain hp | hp := hp
      · exact h.gotStatus (busy hp rfl).1 _ _ _
      · exact h.gotStatus (busy hp rfl).1 _ _ _
  | discarded hp hq => exact h.pop (busy hp rfl).1 hq
  | drained hp hrecv hn =>
      obtain ⟨hg, hfin, hd⟩ := busy hp rfl
      obtain ⟨m, hm, -⟩ | ⟨-, -, hpast, -⟩ := h.recv_cases hg hrecv
      · exact absurd hm (hn m)
      · have h' := h.recv hg hrecv
        exact h'.set hg rfl h.driven h.rx h'.cached ⟨hd, hpast⟩ fun _ ↦ hfin

theorem enters {ops : ZendHashTable} (h : s.Coherent T answer start) (hp : s.php = .idle)
    (he : s.Enters ops s') : s'.Coherent T answer start := by
  have hg := isGone_of_idle hp
  have accept (b : BatchOps) :
      ({ s with world := s.world.mapCall (·.accept b) } : Sys).Coherent T answer start :=
    h.set hg rfl h.driven h.rx h.cached h.stage h.unfinished
  cases he with
  | refused => exact h.raise hg _
  | empty => exact h.set hg rfl h.driven h.rx h.cached h.stage h.unfinished
  | noSender => exact (accept _).raise hg _
  | sends hadm =>
      exact h.set hg rfl h.driven h.rx h.cached trivial fun _ ↦ hadm.notFinished
  | passes hadm => exact (accept _).afterSend hg _ hadm.notFinished

theorem moves (h : s.Coherent T answer start) (hm : s.Moves T answer l s') :
    s'.Coherent T answer start := by
  cases hm with
  | begins hp he => exact h.enters hp he
  | php ha => exact h.advances ha
  | selects _ ha => exact h.advances ha
  | turns hp =>
      exact h.set (isGone_of_idle hp) (by simp) h.driven (by simpa using h.rx) h.cached
        h.stage (by simp [hp, Thread.isBusy])
  | drops => exact ⟨h.clock, h.driven, h.rx, h.cached, nofun, nofun, trivial, nofun⟩
  | driver hs =>
      refine ⟨h.clock, h.driven, h.rx, fun t ht ↦ ?_,
        fun hg ↦ hs.at hg ⟨h.clock, le_rfl⟩ (h.task hg), fun hg ↦ hs.feed hg (h.feed hg),
        h.stage.of_isPast hs.isPast,
        h.unfinished⟩
      obtain ⟨-, _, _, -, hd, -⟩ := h.cached t ht
      have := hs.running
      simp [hd, Driver.hasReturned] at this
  | pulls => exact ⟨h.clock, h.driven, h.rx, h.cached, h.task, h.feed, h.stage, h.unfinished⟩
  | abandons => exact ⟨h.clock, h.driven, h.rx, h.cached, h.task, h.feed, h.stage, h.unfinished⟩
  | ticks ht =>
      refine ⟨h.clock.trans ht, h.driven, h.rx, fun t htr ↦ ?_,
        fun hg ↦ (h.task hg).mono fun _ hc ↦ ⟨hc.1, hc.2.trans ht⟩, h.feed, h.stage, h.unfinished⟩
      obtain ⟨hq, status, now, ha, hd, hc, hst⟩ := h.cached t htr
      exact ⟨hq, status, now, ha, hd, ⟨hc.1, hc.2.trans ht⟩, hst⟩

/-- A stream that was just started. -/
theorem initial (h : Initial answer s) : s.Coherent T answer s.now := by
  cases h with
  | @spawned bidi call connectivity php now hphp hfin =>
      refine ⟨le_rfl, rfl, fun _ ↦ rfl, nofun, fun _ ↦ .spawned ⟨rfl, rfl, rfl, rfl⟩, fun _ ↦ .nil,
        ?_, fun _ ↦ hfin⟩
      change php.Stage _ _
      cases php with
      | headers j r => exact hphp
      | idle | sending => trivial
      | _ => exact hphp.elim

end Coherent

/-- **The channels are in shape in every state of every run.** -/
theorem coherent_of_run {s₀ : Sys} {ls : List Label} (h₀ : Initial answer s₀)
    (h : Run (pgraph (step T answer)) s₀ ls s) : s.Coherent T answer s₀.now :=
  h.state_invariant (Coherent.initial h₀) fun _ _ _ hc hs ↦ hc.moves (step_moves hs)

end Sys

end GrpcPhp
