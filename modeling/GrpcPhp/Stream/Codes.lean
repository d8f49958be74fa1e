import GrpcPhp.Stream.Deadline
import GrpcPhp.Stream.Flow

/-!
# Where a status code comes from

The status PHP gets is made by the task or sent by the peer, and the code alone does not say
by which.  It is still to be trusted: OK is reported for a response that was read to its end and
did not fail, DEADLINE_EXCEEDED not before the deadline unless the call failed with it, and every
other status is the one the call failed with.  The exception is a failed `ready()`, whose status
may be thrown away (`GrpcPhp/Stream/FinalStatus.lean`).

In particular CANCELLED is never the doing of `cancel()`.  The token fires between batches,
and from then on no batch is admitted; the task ends the stream with a CANCELLED of its own,
which nobody reads.
-/

namespace GrpcPhp

open Lib Php

variable {T : Tonic} {answer : Answer}

/-! ## The timer -/

/-- A timer set later does not fire earlier. -/
theorem deadlineInstant_mono {deadlineUsec start now : I64} (h : start.val ≤ now.val) :
    deadlineInstant deadlineUsec start ≤ deadlineInstant deadlineUsec now := by
  unfold deadlineInstant
  split
  · exact Int.add_le_add_right h _
  · simp only [Sat.saturatingSub, Sat.clamp]
    omega

/-- The timer of a real deadline does not fire before it, on a clock that reads no time before
1970. -/
theorem le_deadlineInstant {deadlineUsec now : I64} (hpos : 0 < deadlineUsec.val)
    (hmax : deadlineUsec.val < I64.max.val) (hnow : 0 ≤ now.val) :
    deadlineUsec.val ≤ deadlineInstant deadlineUsec now := by
  have hne : ¬ (deadlineUsec.val ≤ 0 ∨ deadlineUsec = I64.max) := by
    rintro (h | rfl) <;> omega
  rw [deadlineInstant, if_neg hne]
  simp only [Sat.saturatingSub, Sat.clamp]
  have := deadlineUsec.le_hi
  omega

namespace Task

variable {t t' : Task} {a : Act} {ctx : Ctx}

@[simp] theorem cause_afterItem (c : Cause) (now : I64) : (afterItem c now).cause = some c := by
  cases c <;> rfl

/-- The timer is set once. -/
theorem Steps.timer (hs : t.Steps T answer ctx a t') :
    t.driver = .spawned ∧ t'.timer = deadlineInstant ctx.deadlineUsec ctx.now
      ∨ t.driver ≠ .spawned ∧ t'.timer = t.timer := by
  cases hs with
  | start hd => exact .inl ⟨hd, rfl⟩
  | elapsed hd => exact .inr ⟨by obtain hd | hd := hd <;> simp [hd], rfl⟩
  | _ hd => exact .inr ⟨by simp [hd], rfl⟩

/-- Where a terminal event comes from. -/
theorem Steps.cause {c : Cause} (hs : t.Steps T answer ctx a t') (h : t'.driver.cause = some c) :
    t.driver.cause = some c ∨ c.interrupts = false ∨ c = .deadline ∧ t.timer ≤ ctx.now.val
      ∨ c = .cancelled ∧ ctx.cancelled = true := by
  cases hs with
  | elapsed _ ht | deadline _ ht => cases h; exact .inr (.inr (.inl ⟨rfl, ht⟩))
  | cancelled _ hc => cases h; exact .inr (.inr (.inr ⟨rfl, hc⟩))
  | notReady | rejected => cases h; exact .inr (.inl rfl)
  | @finish r => cases h; exact .inr (.inl (by cases r.finish <;> rfl))
  | refused hd | delivered hd => exact .inl (by rw [hd]; exact h)
  | ended hd | endFailed hd => exact .inl (by rw [hd]; exact (cause_afterItem _ _).symm.trans h)
  | _ => cases h

end Task

namespace Sys

variable {s s' : Sys} {start : I64} {l : Label}

/-- The events that the task makes happen by itself have their reasons: the timer, which was
set after `start`, has fired, or the token has.  The token does not fire during a batch. -/
structure Punctual (start : I64) (s : Sys) : Prop where
  armed : s.task.driver ≠ .spawned →
    deadlineInstant s.world.call.deadlineUsec start ≤ s.task.timer
  fired : s.task.driver.cause = some .deadline → s.task.timer ≤ s.now.val
  token : s.task.driver.cause = some .cancelled → s.world.call.cancelToken = true
  busy : s.php.isBusy = true → s.world.call.cancelToken = false

namespace Punctual

/-- The PHP thread leaves the task's program point and its timer alone. -/
theorem frame (h : s.Punctual start) (hf : s.Frame s')
    (ht : s'.world.call.cancelToken = s.world.call.cancelToken)
    (hb : s'.php.isBusy = true → s.world.call.cancelToken = false) : s'.Punctual start := by
  obtain ⟨q, -, htask⟩ := hf.task
  refine ⟨?_, ?_, ?_, ?_⟩
  · rw [htask, hf.deadlineUsec]
    exact h.armed
  · rw [htask, hf.now]
    exact h.fired
  · rw [htask, ht]
    exact h.token
  · rw [ht]
    exact hb

theorem advances (h : s.Punctual start) (ha : s.Advances T s') : s'.Punctual start := by
  refine h.frame ha.frame ?_ fun _ ↦ h.busy ha.isBusy
  cases ha with
  | sent => unfold Sys.afterSend; dsimp only; split <;> rfl
  | _ => rfl

theorem enters {ops : ZendHashTable} (h : s.Punctual start) (he : s.Enters ops s') :
    s'.Punctual start := by
  have hf := he.frame
  cases he with
  | refused => exact h.frame hf rfl nofun
  | empty => exact h.frame hf rfl h.busy
  | noSender => exact h.frame hf rfl nofun
  | sends hadm => exact h.frame hf rfl fun _ ↦ hadm.notCancelled
  | passes hadm =>
      refine h.frame hf ?_ fun _ ↦ hadm.notCancelled
      unfold Sys.afterSend
      dsimp only
      split <;> rfl

/-- The task sets its timer after `start`, and ends the stream by itself for a reason. -/
theorem driver {a : Act} {task : Task} (h : s.Punctual start) (hclock : start.val ≤ s.now.val)
    (hs : s.task.Steps T answer s.ctx a task) : (s.afterTask answer a task).Punctual start where
  armed _ := by
    obtain ⟨-, ht⟩ | ⟨hd, ht⟩ := hs.timer
    · exact ht ▸ deadlineInstant_mono hclock
    · exact ht ▸ h.armed hd
  fired hc := by
    obtain ⟨hd, ht⟩ | ⟨-, ht⟩ := hs.timer
    · -- a task that has just been spawned has not ended
      cases hs with
      | start => cases hc
      | elapsed hd' => obtain hd' | hd' := hd' <;> cases hd.symm.trans hd'
      | _ hd' => cases hd.symm.trans hd'
    · obtain hc | hc | ⟨-, hc⟩ | ⟨hc, -⟩ := hs.cause hc
      · exact ht ▸ h.fired hc
      · cases hc
      · exact ht ▸ hc
      · cases hc
  token hc := by
    obtain hc | hc | ⟨hc, -⟩ | ⟨-, hc⟩ := hs.cause hc
    · exact h.token hc
    · cases hc
    · cases hc
    · exact hc
  busy := h.busy

theorem moves (h : s.Punctual start) (hclock : start.val ≤ s.now.val)
    (hm : s.Moves T answer l s') : s'.Punctual start := by
  cases hm with
  | begins _ he => exact h.enters he
  | php ha => exact h.advances ha
  | selects _ ha => exact h.advances ha
  | @turns a hp =>
      refine ⟨by simpa using h.armed, h.fired, fun hc ↦ ?_, fun hb ↦ ?_⟩
      · have := h.token hc
        cases a with
        | cancel => rfl
        | _ => exact this
      · rw [hp] at hb
        cases hb
  | drops => exact ⟨h.armed, h.fired, h.token, nofun⟩
  | driver hs => exact h.driver hclock hs
  | ticks ht => exact ⟨h.armed, fun hc ↦ (h.fired hc).trans ht, h.token, h.busy⟩
  | pulls | abandons => exact ⟨h.armed, h.fired, h.token, h.busy⟩

end Punctual

/-- The timers and tokens of every run, when the call was not cancelled at its start. -/
theorem punctual_of_run {s₀ : Sys} {ls : List Label} (h₀ : Initial answer s₀)
    (hlive : s₀.world.call.cancelToken = false) (h : Run (pgraph (step T answer)) s₀ ls s) :
    s.Punctual s₀.now := by
  refine h.invariant_of_run (I := fun _ s ↦ s.Punctual s₀.now) ?_ fun _ _ _ _ hrun hp hs ↦
    hp.moves (coherent_of_run h₀ hrun).clock (step_moves hs)
  cases h₀ with | spawned => exact ⟨fun hd ↦ absurd rfl hd, nofun, nofun, fun _ ↦ hlive⟩

end Sys

/-! ## Codes -/

theorem Code.toInt_eq_four {c : Code} : c.toInt = 4 ↔ c = .deadlineExceeded := by
  cases c <;> decide

/-- The status the call fails with, if it does. -/
def Answer.status : Answer → Option Status
  | .notReady status | .rejected status => some status
  | .response r => match r.finish with
      | .error status => some status
      | .clean _ => none

/-- The response ends without an error. -/
def Answer.EndsClean (answer : Answer) : Prop :=
  ∃ r trailers, answer = .response r ∧ r.finish = .clean trailers

namespace Sys

variable {s s' : Sys} {start : I64} {l : Label}

/-- The deadline of the call has passed.  One that is not real passes thirty years after the
start. -/
def Overdue (start : I64) (s : Sys) : Prop :=
  s.Timed ∧ s.world.call.deadlineUsec.val ≤ s.now.val
    ∨ ¬ s.Timed ∧ start.val + 86400 * 365 * 30 * 1000000 ≤ s.now.val

/-- It has when the timer has fired. -/
theorem overdue_of_deadlineInstant (hstart : 0 ≤ start.val)
    (h : deadlineInstant s.world.call.deadlineUsec start ≤ s.now.val) : s.Overdue start := by
  by_cases ht : s.Timed
  · exact .inl ⟨ht, (le_deadlineInstant ht.1 ht.2 hstart).trans h⟩
  · refine .inr ⟨ht, ?_⟩
    have hnone : s.world.call.deadlineUsec.val ≤ 0 ∨ s.world.call.deadlineUsec = I64.max := by
      by_contra hreal
      push Not at hreal
      exact ht ⟨hreal.1, lt_of_le_of_ne (Sat.le_hi _) fun hmax ↦ hreal.2 (Sat.ext hmax)⟩
    rwa [deadlineInstant, if_pos hnone] at h

/-- What a reported status says, where the stream was started at `start`. -/
structure Vouched (T : Tonic) (answer : Answer) (start : I64) (s : Sys) (st : PhpStatus) :
    Prop where
  /-- The response was read to its end, and did not fail. -/
  ok : st.code = 0 → s.closed = true ∧ s.task.unread = []
    ∧ (answer.EndsClean ∨ ∃ status ∈ answer.status, status.code = .ok)
  /-- The deadline has passed, or the call failed with a status that says so. -/
  deadline : st.code = 4 → s.Overdue start
    ∨ ∃ status ∈ answer.status, status.code = .deadlineExceeded
  /-- The call failed with this code and this text; or `ready()` failed, and what it failed with
  was thrown away. -/
  other : st.code ≠ 0 → st.code ≠ 4 →
    (∃ status ∈ answer.status, (st.code, st.details) = status.reported)
      ∨ answer.isNotReady = true ∧ st = ActiveStream.terminatedUnexpectedly.toPhp T

/-- The clock does not go back, and the deadline stays. -/
theorem Moves.clock (hm : s.Moves T answer l s') :
    s.now.val ≤ s'.now.val ∧ s'.world.call.deadlineUsec = s.world.call.deadlineUsec := by
  cases hm with
  | begins _ he => exact ⟨he.frame.now ▸ le_rfl, he.frame.deadlineUsec⟩
  | php ha => exact ⟨ha.frame.now ▸ le_rfl, ha.frame.deadlineUsec⟩
  | selects _ ha => exact ⟨ha.frame.now ▸ le_rfl, ha.frame.deadlineUsec⟩
  | turns => exact ⟨le_rfl, by simp⟩
  | ticks ht => exact ⟨ht, rfl⟩
  | drops | driver | pulls | abandons => exact ⟨le_rfl, rfl⟩

namespace Vouched

variable {st : PhpStatus}

/-- A status that was reported stays one. -/
theorem moves (h : s.Vouched T answer start st) (hm : s.Moves T answer l s') :
    s'.Vouched T answer start st := by
  obtain ⟨hnow, hdeadline⟩ := hm.clock
  refine ⟨fun hc ↦ ?_, fun hc ↦ (h.deadline hc).imp_left fun ho ↦ ?_, h.other⟩
  · obtain ⟨hclosed, hunread, hend⟩ := h.ok hc
    have hafter := hm.after hclosed
    exact ⟨(congrArg Driver.hasReturned hafter.driver).trans hclosed,
      hafter.unread.trans hunread, hend⟩
  · rw [Overdue, Timed, hdeadline]
    exact ho.imp (And.imp_right (·.trans hnow)) (And.imp_right (·.trans hnow))

/-- A status the call failed with, reported by the clock `now`. -/
theorem of_status {status : Status} {now : I64} (hs : answer.status = some status)
    (hclosed : s.closed = true) (hunread : s.task.unread = []) (hnow : now.val ≤ s.now.val)
    (hst : (st.code, st.details) = statusToPhp status s.world.call.deadlineUsec now) :
    s.Vouched T answer start st := by
  by_cases hx : status.code = .cancelled ∧ s.Timed ∧ s.world.call.deadlineUsec.val ≤ now.val
  · -- tonic reports an expired deadline as CANCELLED
    have hfour : statusToPhp status s.world.call.deadlineUsec now = (4, "Deadline Exceeded") :=
      if_pos hx
    have hcode : st.code = 4 := congrArg Prod.fst (hst.trans hfour)
    exact ⟨fun hc ↦ by omega, fun _ ↦ .inl (.inl ⟨hx.2.1, hx.2.2.trans hnow⟩),
      fun _ hc ↦ absurd hcode hc⟩
  · have hrep : (st.code, st.details) = status.reported := hst.trans (if_neg hx)
    have hcode : st.code = 14 ∨ st.code = status.code.toInt := by
      have hfst : st.code = status.reported.1 := congrArg Prod.fst hrep
      rw [hfst, Status.reported]
      split
      · exact .inl rfl
      · exact .inr rfl
    refine ⟨fun hc ↦ ⟨hclosed, hunread, .inr ⟨status, hs, Code.toInt_eq_zero.mp ?_⟩⟩,
      fun hc ↦ .inr ⟨status, hs, Code.toInt_eq_four.mp ?_⟩, fun _ _ ↦ .inl ⟨status, hs, hrep⟩⟩
    all_goals omega

end Vouched

/-- A status that is being reported. -/
theorem Reports.vouched {st : PhpStatus} (h : s.Reports T answer start st) (hstart : 0 ≤ start.val)
    (hp : s.Punctual start) (hlive : s.world.call.cancelToken = false) :
    s.Vouched T answer start st := by
  cases h with
  | @event c now hd hof hunread hc =>
      have hcause : s.task.driver.cause = some c := by rw [hd]; rfl
      have hclosed : s.closed = true := by rw [closed, hd]; rfl
      cases c with
      | notReady status | rejected status =>
          exact .of_status (by rw [show answer = _ from hof]; rfl) hclosed (hunread rfl) hc.2 rfl
      | error status =>
          obtain ⟨r, rfl, hr⟩ := hof
          exact .of_status (by simp [Answer.status, hr]) hclosed (hunread rfl) hc.2 rfl
      | clean =>
          exact ⟨fun _ ↦ ⟨hclosed, hunread rfl, .inl hof⟩, fun h ↦ (by cases h),
            fun h ↦ absurd rfl h⟩
      | deadline =>
          have hfired := (hp.armed (by simp [hd])).trans (hp.fired hcause)
          exact ⟨fun h ↦ (by cases h), fun _ ↦ .inl (overdue_of_deadlineInstant hstart hfired),
            fun _ h ↦ absurd rfl h⟩
      | cancelled => cases hlive.symm.trans (hp.token hcause)

end Sys

/-- **What a status says.**  In every run of a stream whose call was not cancelled when it was
started, whatever is cancelled later, and whose clock read no time before 1970 then: OK is reported
only if the response was read to its end and did not fail; DEADLINE_EXCEEDED only if the deadline
has passed, thirty years after the start for one that is not real, or if the call failed with it;
and every other status has the code and text of the one the call failed with, but where `ready()`
failed, and its status was thrown away. -/
theorem vouched_of_run {s₀ s : Sys} {ls : List Label} (h₀ : Sys.Initial answer s₀)
    (hlive : s₀.world.call.cancelToken = false) (hstart : 0 ≤ s₀.now.val)
    (h : Run (pgraph (Sys.step T answer)) s₀ ls s) :
    ∀ st ∈ s.world.statuses, s.Vouched T answer s₀.now st := by
  refine h.invariant_of_run
    (I := fun _ s ↦ ∀ st ∈ s.world.statuses, s.Vouched T answer s₀.now st) ?_ ?_
  · cases h₀ with | spawned => exact nofun
  · intro ls t l u hrun ih hs st hst
    have hm := Sys.step_moves hs
    have hc := Sys.coherent_of_run h₀ hrun
    have hp := Sys.punctual_of_run h₀ hlive hrun
    suffices hvouched : t.Vouched T answer s₀.now st from hvouched.moves hm
    have advances (ha : t.Advances T u) : t.Vouched T answer s₀.now st := by
      obtain hst | hst | ⟨hl, rfl⟩ := hc.advances_reports ha hst
      · exact ih st hst
      · -- a status is reported inside a batch, which the token does not interrupt
        exact hst.vouched hstart hp (hp.busy ha.isBusy)
      · exact ⟨fun h ↦ (by cases h), fun h ↦ (by cases h),
          fun _ _ ↦ .inr ⟨hc.isNotReady_of_lost hl, rfl⟩⟩
    cases hm with
    | begins _ he => exact ih st (by simpa [he.observe_eq received_status] using hst)
    | php ha => exact advances ha
    | selects _ ha => exact advances ha
    | _ => exact ih st hst

/-- A deadline that passes while PHP waits for a server that does not answer; the call is then
cancelled. -/
theorem vouched_of_run_expired :
    let answer : Answer := .response ⟨[], [], .clean (.ok none)⟩
    let ls : List Label := [.begin [Op.recvStatusOnClient.flag], .php, .php, .php, .driver .proceed,
      .driver .ready, .tick (I64.ofInt 200), .driver .deadline, .driver .proceed, .driver .proceed,
      .driver .proceed, .select .trailers, .aside .cancel]
    ∃ s, Run (pgraph (Sys.step Tonic.ascii answer)) (.server answer (I64.ofInt 100)) ls s ∧
      s.world.statuses = [⟨[], 4, "Deadline Exceeded"⟩] ∧
      ∀ st ∈ s.world.statuses, s.Vouched Tonic.ascii answer (I64.ofInt 1) st := by
  intro answer ls
  obtain ⟨s, hrun, hst⟩ := Run.exists_of_any (Sys.step Tonic.ascii answer)
    (.server answer (I64.ofInt 100)) ls
    (fun s ↦ s.world.statuses = [⟨[], 4, "Deadline Exceeded"⟩]) (by decide)
  exact ⟨s, hrun, of_decide_eq_true hst,
    vouched_of_run (Sys.server_initial _ _) rfl (by decide) hrun⟩

end GrpcPhp
