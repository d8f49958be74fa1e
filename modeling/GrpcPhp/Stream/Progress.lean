import GrpcPhp.Stream.Channels

/-!
# Receiving does not deadlock

The response queue is bounded and the task parks on it when it is full, so the PHP thread
must never wait for something the task cannot reach while parked.  It waits at four
places, and at each of them the queue is known not to be full or the task not to be at a
send: before the headers nothing was sent, the blocking `recv` and the drain loop wait on
an empty queue, and after the drain loop the last item is behind the task.
-/

namespace GrpcPhp

open Lib Php

variable {T : Tonic} {answer : Answer}

/-! ## Waiting -/

/-- Inside `build_stream_result`. -/
def Thread.receives : Thread → Bool
  | .idle | .sending _ _ | .gone => false
  | _ => true

/-- The PHP thread is inside `build_stream_result` and has to wait. -/
structure Sys.Blocked (T : Tonic) (s : Sys) : Prop where
  receives : s.php.receives = true
  step : s.phpStep T = none
  select : ∀ arm, s.select T arm = none

/-- The task is at a send, and the queue is full. -/
def Task.Parked (t : Task) : Prop :=
  t.driver.isSending = true ∧ STREAM_MSG_BUFFER ≤ t.queue.length

/-- The task waits for the transport, or for its timer. -/
def Driver.awaits : Driver → Bool
  | .connecting | .requesting | .reading => true
  | _ => false

/-! ## The task -/

namespace Task

variable {t : Task} {ctx : Ctx} {deadlineUsec : I64} {clock : I64 → Prop}

/-- A task that is neither parked nor waiting for the transport makes a step. -/
theorem step_proceed_isSome (hr : t.driver.hasReturned = false) (ha : t.driver.awaits = false)
    (hp : ¬ t.Parked) : (t.step T answer ctx .proceed).isSome = true := by
  have hroom : t.driver.isSending = true → t.queue.length < STREAM_MSG_BUFFER := fun hs ↦ by
    by_contra hlen
    exact hp ⟨hs, Nat.le_of_not_lt hlen⟩
  unfold Task.step
  cases hd : t.driver with
  | spawned | opening | refusing | delivering => rfl
  | forwarding | ending =>
      dsimp only
      split
      · rfl
      · rw [Queue.send, if_pos (hroom (by rw [hd]; rfl))]
        rfl
  | connecting | requesting | reading => simp [hd, Driver.awaits] at ha
  | returned => simp [hd, Driver.hasReturned] at hr

/-- A task that waits for the transport takes what the transport gives. -/
theorem At.step_peer_isSome (h : t.At T answer deadlineUsec clock t.driver)
    (ha : t.driver.awaits = true) :
    ∃ a, a.needsPeer = true ∧ (t.step T answer ctx a).isSome = true := by
  unfold Task.step
  cases hd : t.driver with
  | connecting =>
      cases answer with
      | notReady => exact ⟨.notReady, rfl, rfl⟩
      | rejected | response => exact ⟨.ready, rfl, rfl⟩
  | requesting =>
      rw [hd] at h
      cases h with | requesting _ hn =>
        cases answer with
        | notReady status => exact absurd rfl (hn status)
        | rejected => exact ⟨.rejected, rfl, rfl⟩
        | response => exact ⟨.headers, rfl, rfl⟩
  | reading =>
      rw [hd] at h
      cases h with | reading h =>
        obtain ⟨r, rfl⟩ := h.response
        cases hu : t.unread with
        | nil => exact ⟨.finish, rfl, by simp⟩
        | cons => exact ⟨.message, rfl, by simp⟩
  | _ => simp [hd, Driver.awaits] at ha

end Task

/-! ## The PHP thread -/

theorem Sys.Blocked.isGone {s : Sys} (h : s.Blocked T) : s.isGone = false := by
  have := h.receives
  unfold Sys.isGone
  split
  · next hp => simp [hp, Thread.receives] at this
  · rfl

/-- What the PHP thread waits for is still in the task's hands, and the task is not held
up by the queue. -/
theorem Sys.Coherent.of_blocked {start : I64} {s : Sys} (h : s.Coherent T answer start)
    (hb : s.Blocked T) : s.closed = false ∧ ¬ s.task.Parked := by
  have hstep := hb.step
  unfold Sys.phpStep at hstep
  have hat := h.task hb.isGone
  have hempty (hq : s.task.queue = []) : ¬ s.task.Parked := by
    rintro ⟨-, hlen⟩
    simp [hq, STREAM_MSG_BUFFER] at hlen
  split at hstep
  next hp => simpa [hp, Thread.receives] using hb.receives
  next j r hp =>
    -- the drain loop waits on an empty queue
    have hm := hb.select .message
    simp only [Sys.select, hp, Option.map_eq_none_iff, Queue.recv_eq_none] at hm
    exact ⟨hm.2, hempty hm.1⟩
  next hp => simpa [hp, Thread.receives] using hb.receives
  next hp => simpa [hp, Thread.receives] using hb.receives
  next j r hp =>
    -- without headers the task is before its first send
    split at hstep
    · rw [Option.map_eq_none_iff, Oneshot.await_eq_none] at hstep
      refine ⟨hstep.2, fun hpk ↦ ?_⟩
      have := hpk.1
      cases hd : s.task.driver <;> simp only [hd, Driver.isSending, Bool.false_eq_true] at this
      · rw [hd] at hat
        cases hat with | forwarding hs => simp [hs.headers] at hstep
      · rw [hd] at hat
        cases hat with | ending hs => simpa [hstep.1] using hs.headers
    · cases hstep
  next j r hp =>
    split at hstep
    · split at hstep <;> cases hstep
    · cases hstep
  next j r hp =>
    rw [Option.map_eq_none_iff, Queue.recv_eq_none] at hstep
    exact ⟨hstep.2, hempty hstep.1⟩
  next j r hp => split at hstep <;> cases hstep
  next j r hp =>
    -- the drain loop saw the last item
    rw [Option.map_eq_none_iff, Oneshot.await_eq_none] at hstep
    refine ⟨hstep.2, fun hpk ↦ ?_⟩
    have hst := h.stage
    rw [hp] at hst
    have := hpk.1
    cases hd : s.task.driver <;> simp_all [Driver.isSending, Driver.isPast, Thread.Stage]

/-! ## Progress -/

/-- **Receiving does not deadlock.**  Whenever the PHP thread waits inside
`build_stream_result`, in any state of any run, the task has not returned and is not
parked on the queue: it makes a step by itself, or waits for the transport and takes
whatever the transport gives. -/
theorem blocked_task_progresses {s₀ s : Sys} {ls : List Label} (h₀ : Sys.Initial answer s₀)
    (h : Run (pgraph (Sys.step T answer)) s₀ ls s) (hb : s.Blocked T) :
    s.closed = false ∧ ¬ s.task.Parked ∧
      if s.task.driver.awaits then
        ∃ a, a.needsPeer = true ∧ (s.step T answer (.driver a)).isSome = true
      else (s.step T answer (.driver .proceed)).isSome = true := by
  have hc := Sys.coherent_of_run h₀ h
  obtain ⟨hopen, hpark⟩ := hc.of_blocked hb
  refine ⟨hopen, hpark, ?_⟩
  simp only [Sys.step, Option.isSome_map]
  split
  · next ha => exact (hc.task hb.isGone).step_peer_isSome ha
  · next ha => exact Task.step_proceed_isSome hopen (by simpa using ha) hpark

/-- The drain loop waits for a task that is about to read. -/
theorem blocked_task_progresses_drain :
    let answer : Answer := .response ⟨[], [[1]], .clean (.ok none)⟩
    ∃ s, Run (pgraph (Sys.step Tonic.ascii answer)) (.server answer I64.max)
        [.begin [Op.recvStatusOnClient.flag], .php, .php, .php, .driver .proceed, .driver .ready,
          .driver .headers, .driver .proceed] s ∧
      s.Blocked Tonic.ascii ∧ s.closed = false ∧ ¬ s.task.Parked ∧
      if s.task.driver.awaits then
        ∃ a, a.needsPeer = true ∧ (s.step Tonic.ascii answer (.driver a)).isSome = true
      else (s.step Tonic.ascii answer (.driver .proceed)).isSome = true :=
  have hrun := Run.of_foldlM rfl
  have hblocked := ⟨rfl, rfl, fun arm ↦ by cases arm <;> rfl⟩
  ⟨_, hrun, hblocked, blocked_task_progresses (Sys.server_initial _ _) hrun hblocked⟩

end GrpcPhp
