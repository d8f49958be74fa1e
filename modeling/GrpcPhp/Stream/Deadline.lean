import GrpcPhp.Stream.Progress

/-!
# The deadline and a blocked send

A write waits for room in the request queue, which only the transport empties.  What
bounds the wait is the task: when its timer fires it ends, and with it, it is assumed here, the
request stream, which closes the request queue.  Between the timer and the end there is one wait
that the timer does not bound, the send to the response queue.  If that queue is full the task
waits for the PHP thread, which waits for the task.

So the deadline bounds a write as long as the response queue has room while PHP writes.
-/

namespace GrpcPhp

open Lib Php

variable {T : Tonic} {answer : Answer}

/-! ## The timer -/

/-- The timer fires when the deadline has passed, or at once if it had passed already. -/
theorem deadlineInstant_le {deadlineUsec now : I64} (hpos : 0 < deadlineUsec.val)
    (hmax : deadlineUsec.val < I64.max.val) :
    deadlineInstant deadlineUsec now ≤ max deadlineUsec.val now.val := by
  have hne : ¬ (deadlineUsec.val ≤ 0 ∨ deadlineUsec = I64.max) := by
    rintro (h | rfl) <;> omega
  rw [deadlineInstant, if_neg hne]
  simp only [Sat.saturatingSub, Sat.clamp]
  have := now.le_hi
  omega

namespace Sys

variable {s s' : Sys} {l : Label}

/-- The deadline of the call is a real one. -/
def Timed (s : Sys) : Prop :=
  0 < s.world.call.deadlineUsec.val ∧ s.world.call.deadlineUsec.val < I64.max.val

instance (s : Sys) : Decidable s.Timed := inferInstanceAs (Decidable (_ ∧ _))

/-- Once set, the timer is not later than the deadline, or than now. -/
def Wound (s : Sys) : Prop := s.Timed → s.task.driver = .spawned
  ∨ s.task.timer ≤ max s.world.call.deadlineUsec.val s.now.val

theorem Frame.wound (hf : s.Frame s') (h : s.Wound) : s'.Wound := by
  obtain ⟨q, -, ht⟩ := hf.task
  unfold Wound Timed at h ⊢
  rwa [hf.deadlineUsec, hf.now, ht]

theorem Wound.moves (h : s.Wound) (hm : s.Moves T answer l s') : s'.Wound := by
  cases hm with
  | begins _ he => exact he.frame.wound h
  | php ha => exact ha.frame.wound h
  | selects _ ha => exact ha.frame.wound h
  | turns => unfold Wound Timed at h ⊢; simpa using h
  | driver hs =>
      intro ht
      refine .inr ?_
      cases hs with
      | start => exact deadlineInstant_le ht.1 ht.2
      | elapsed hd => exact (h ht).resolve_left (by obtain hd | hd := hd <;> simp [hd])
      | _ hd => exact (h ht).resolve_left (by simp [hd])
  | ticks ht =>
      intro htimed
      refine (h htimed).imp_right fun h ↦ h.trans ?_
      dsimp only
      omega
  | drops | pulls | abandons => exact h

/-- The timer is set right in every run. -/
theorem wound_of_run {s₀ : Sys} {ls : List Label} (h₀ : Initial answer s₀)
    (h : Run (pgraph (step T answer)) s₀ ls s) : s.Wound :=
  h.state_invariant (by cases h₀ with | spawned => exact fun _ ↦ .inl rfl)
    fun _ _ _ hw hs ↦ hw.moves (step_moves hs)

end Sys

/-! ## Room for the response -/

/-- In `send_stream_message`. -/
def Thread.isSending : Thread → Bool
  | .sending _ _ => true
  | _ => false

/-- The task is in the `select!` of its loop. -/
def Driver.isReading : Driver → Bool
  | .reading => true
  | _ => false

namespace Sys

variable {s s' : Sys} {start : I64} {l : Label}

/-- The response queue has room when PHP starts to write, and, while PHP writes, whenever the
task leaves its `select!`. -/
def Roomy (s : Sys) : Label → Prop
  | .begin ops => ((admitted s.world.call ops).any fun b ↦ b.sendMessage.isSome) = true →
      s.task.queue.length < STREAM_MSG_BUFFER
  | .driver _ => s.php.isSending = true → s.task.driver.isReading = true →
      s.task.queue.length < STREAM_MSG_BUFFER
  | _ => True

instance (s : Sys) (l : Label) : Decidable (s.Roomy l) := match l with
  | .begin _ => inferInstanceAs (Decidable (_ → _))
  | .driver _ => inferInstanceAs (Decidable (_ → _ → _))
  | .php | .select _ | .aside _ | .drop | .pull | .abandon | .tick _ => .isTrue trivial

/-- While PHP writes, the task is not parked. -/
def Unparked (s : Sys) : Prop := s.php.isSending = true → ¬ s.task.Parked

@[simp] theorem isSending_afterSend (s : Sys) (j : Batch) :
    (s.afterSend j).php.isSending = false := by
  rcases s.afterSend_php j with h | h <;> rw [h] <;> rfl

theorem Advances.not_sending (ha : s.Advances T s') : s'.php.isSending = false := by
  cases ha with
  | sent => simp
  | discarded hp => simp [hp, Thread.isSending]
  | _ => rfl

theorem isGone_of_isSending (h : s.php.isSending = true) : s.isGone = false := by
  refine isGone_of_isBusy ?_
  cases hp : s.php <;> simp_all [Thread.isSending, Thread.isBusy]

theorem not_parked_of_lt {t : Task} (h : t.queue.length < STREAM_MSG_BUFFER) : ¬ t.Parked :=
  fun hp ↦ absurd h (Nat.not_lt.mpr hp.2)

theorem Unparked.moves (h : s.Unparked) (hc : s.Coherent T answer start) (hr : s.Roomy l)
    (hm : s.Moves T answer l s') : s'.Unparked := by
  cases hm with
  | @begins ops _ hp he =>
      intro hs
      cases he with
      | sends hadm hm =>
          have hsome : ((admitted s.world.call ops).any fun b ↦ b.sendMessage.isSome) = true := by
            rw [hadm.mem_admitted, Option.any_some, hm]
            rfl
          exact not_parked_of_lt (hr hsome)
      | passes => simp at hs
      | empty => exact h hs
      | _ => cases hs
  | php ha => intro hs; simp [ha.not_sending] at hs
  | selects _ ha => intro hs; simp [ha.not_sending] at hs
  | driver hs =>
      intro hp
      have hat := hc.task (isGone_of_isSending hp)
      cases hs with
      | refused hd =>
          rw [hd] at hat
          cases hat with | refusing hu =>
            refine not_parked_of_lt ?_
            simp [hu.queue, STREAM_MSG_BUFFER]
      | message hd | finish hd | cancelled hd | deadline hd =>
          exact not_parked_of_lt (hr hp (by rw [hd]; rfl))
      | @ended c now | @endFailed c now => cases c <;> exact fun hpk ↦ by cases hpk.1
      | _ => exact fun hpk ↦ by cases hpk.1
  | drops => intro hs; cases hs
  | turns | pulls | abandons | ticks => exact h

/-- While PHP writes, the task is not parked, in every run that leaves room for the response. -/
theorem unparked_of_run {s₀ : Sys} {ls : List Label} (h₀ : Initial answer s₀)
    (h : Run (Such (pgraph (step T answer)) Roomy) s₀ ls s) : s.Unparked := by
  refine h.invariant_of_run (I := fun _ s ↦ s.Unparked) ?_ fun ls t l u hrun hu hs ↦
    hu.moves (coherent_of_run h₀ hrun.of_such) hs.1 (step_moves hs.2)
  cases h₀ with
  | spawned => exact fun _ hpk ↦ by cases hpk.1

/-! ## Progress -/

/-- The PHP thread is in `send_stream_message` and has to wait. -/
structure SendBlocked (T : Tonic) (s : Sys) : Prop where
  sending : s.php.isSending = true
  step : s.phpStep T = none

instance (T : Tonic) (s : Sys) : Decidable (s.SendBlocked T) :=
  decidable_of_iff (s.php.isSending = true ∧ (s.phpStep T).isNone = true)
    ⟨fun h ↦ ⟨h.1, Option.isNone_iff_eq_none.mp h.2⟩, fun h ↦ ⟨h.1, by rw [h.2]; rfl⟩⟩

/-- A send waits only for a task that has not returned, if one that has drops the requests. -/
theorem SendBlocked.closed (h : s.SendBlocked T)
    (hdrop : s.closed = true → s.requestsClosed = true) : s.closed = false := by
  obtain ⟨hs, hstep⟩ := h
  cases hp : s.php with
  | sending j m =>
      simp only [Sys.phpStep, hp] at hstep
      split at hstep
      · cases hstep
      · next hc => exact Bool.eq_false_iff.mpr fun h ↦ hc (hdrop h)
  | _ => simp [hp, Thread.isSending] at hs

end Sys

/-- A task that waits for the transport sees its timer. -/
theorem Task.step_deadline_isSome {t : Task} {ctx : Ctx} (ha : t.driver.awaits = true)
    (ht : t.timer ≤ ctx.now.val) : (t.step T answer ctx .deadline).isSome = true := by
  unfold Task.step
  cases hd : t.driver with
  | connecting | requesting | reading => simp [ht]
  | _ => simp [hd, Driver.awaits] at ha

/-- So the deadline releases a task that waits for the transport. -/
theorem Sys.step_deadline_isSome_of_run {s₀ s : Sys} {ls : List Label} (h₀ : Sys.Initial answer s₀)
    (h : Run (pgraph (Sys.step T answer)) s₀ ls s) (ht : s.Timed)
    (hpast : s.world.call.deadlineUsec.val ≤ s.now.val) (ha : s.task.driver.awaits = true) :
    (s.task.step T answer s.ctx .deadline).isSome = true := by
  refine Task.step_deadline_isSome ha ?_
  -- the timer has been set, and it has fired
  have hset : s.task.driver ≠ .spawned := fun hd ↦ by simp [hd, Driver.awaits] at ha
  have := (Sys.wound_of_run h₀ h ht).resolve_left hset
  rwa [max_eq_right hpast] at this

/-- **The deadline bounds a send.**  In every run that leaves room for the response, whenever
the deadline has passed and the PHP thread is blocked in a send, the task makes a step that
needs neither the PHP thread nor the peer; provided that a task which has returned has dropped
the requests. -/
theorem blocked_send_released {s₀ s : Sys} {ls : List Label} (h₀ : Sys.Initial answer s₀)
    (h : Run (Such (pgraph (Sys.step T answer)) Sys.Roomy) s₀ ls s) (ht : s.Timed)
    (hpast : s.world.call.deadlineUsec.val ≤ s.now.val) (hb : s.SendBlocked T)
    (hdrop : s.closed = true → s.requestsClosed = true) :
    ∃ a, a.needsPeer = false ∧ (s.step T answer (.driver a)).isSome = true := by
  have hpark := Sys.unparked_of_run h₀ h hb.sending
  simp only [Sys.step, Option.isSome_map]
  cases ha : s.task.driver.awaits with
  | false => exact ⟨.proceed, rfl, Task.step_proceed_isSome (hb.closed hdrop) ha hpark⟩
  | true => exact ⟨.deadline, rfl, Sys.step_deadline_isSome_of_run h₀ h.of_such ht hpast ha⟩

/-- Five writes to a peer that takes none of them, and that never answers. -/
theorem blocked_send_released_unanswered :
    let answer : Answer := .response ⟨[], [], .clean (.ok none)⟩
    let write : Label := .begin [messageOp [1]]
    let ls : List Label := [.php, write, .php, write, .php, write, .php, write, .driver .proceed,
      .tick (I64.ofInt 200)]
    ∃ s, Run (Such (pgraph (Sys.step Tonic.ascii answer)) Sys.Roomy)
        (.bidi answer (I64.ofInt 100)) ls s ∧
      (s.Timed ∧ s.world.call.deadlineUsec.val ≤ s.now.val ∧ s.SendBlocked Tonic.ascii
        ∧ (s.closed = true → s.requestsClosed = true)) ∧
      ∃ a, a.needsPeer = false ∧ (s.step Tonic.ascii answer (.driver a)).isSome = true := by
  intro answer write ls
  obtain ⟨s, hrun, hs⟩ := Run.exists_of_any_such (Sys.step Tonic.ascii answer) Sys.Roomy
    (.bidi answer (I64.ofInt 100)) ls (fun s ↦ s.Timed
      ∧ s.world.call.deadlineUsec.val ≤ s.now.val ∧ s.SendBlocked Tonic.ascii
      ∧ (s.closed = true → s.requestsClosed = true)) (by decide)
  obtain ⟨ht, hpast, hb, hdrop⟩ := of_decide_eq_true hs
  exact ⟨s, hrun, ⟨ht, hpast, hb, hdrop⟩,
    blocked_send_released (Sys.bidi_initial _ _) hrun ht hpast hb hdrop⟩

/-- Five writes to a peer that takes none of them, and that sends 33 messages: the deadline
passes, and nothing happens. -/
theorem full_queues_deadlock :
    let answer : Answer := .response ⟨[], List.replicate 33 [], .clean (.ok none)⟩
    let write : Label := .begin [messageOp [1]]
    let ls : List Label := [.php, write, .php, write, .php, write, .php, write, .driver .proceed,
      .driver .ready, .driver .headers, .driver .proceed]
      ++ (List.replicate 32 [.driver .message, .driver .proceed]).flatten
      ++ [.driver .message, .tick (I64.ofInt 200)]
    ∃ s, Run (pgraph (Sys.step Tonic.ascii answer)) (.bidi answer (I64.ofInt 100)) ls s ∧
      (s.Timed ∧ s.world.call.deadlineUsec.val ≤ s.now.val ∧ s.SendBlocked Tonic.ascii
        ∧ (s.closed = true → s.requestsClosed = true)) ∧
      ¬ ∃ a, a.needsPeer = false ∧ (s.step Tonic.ascii answer (.driver a)).isSome = true := by
  intro answer write ls
  obtain ⟨s, hrun, hs⟩ := Run.exists_of_any (Sys.step Tonic.ascii answer)
    (.bidi answer (I64.ofInt 100)) ls (fun s ↦ (s.Timed
      ∧ s.world.call.deadlineUsec.val ≤ s.now.val ∧ s.SendBlocked Tonic.ascii
      ∧ (s.closed = true → s.requestsClosed = true)) ∧ ∀ a ∈ [Act.deadline, .cancelled, .proceed],
        (s.step Tonic.ascii answer (.driver a)).isSome = false) (by decide)
  obtain ⟨hb, hnone⟩ := of_decide_eq_true hs
  refine ⟨s, hrun, hb, ?_⟩
  rintro ⟨a, ha, hsome⟩
  have hmem : a ∈ [Act.deadline, .cancelled, .proceed] := by
    cases a <;> simp [Act.needsPeer] at ha ⊢
  simp [hnone a hmem] at hsome

end GrpcPhp
