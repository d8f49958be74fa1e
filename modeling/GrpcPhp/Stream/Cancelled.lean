import GrpcPhp.Stream.Flow

/-!
# A call that was cancelled

`cancel` fires a token, and the token is looked at in two places.  `startBatch` refuses every
further batch, so that nothing is taken from the queue any more.  The task looks at it in the
`select!` of its loop and nowhere else: not while it connects, not while it waits for the
response, and not while it waits for room in the queue.

So a task has to get out on its own.  `Driver.sendsLeft` counts what it still puts into the
queue on the way; if there is no room for that, the task is never heard of again while PHP keeps
the call object, deadline or not, and the RPC stays open.
-/

namespace GrpcPhp

open Lib Php

variable {T : Tonic} {answer : Answer}

/-! ## The task -/

namespace Driver

/-- What the task still puts into the queue if it takes no further message. -/
def sendsLeft : Driver → Nat
  | .delivering _ _ | .returned _ => 0
  | .forwarding _ => 2
  | _ => 1

/-- The steps left to a task that takes no further message. -/
def aloneLeft : Driver → Nat
  | .returned _ => 0
  | .delivering _ _ => 1
  | .ending _ _ => 2
  | .refusing _ | .reading => 3
  | .forwarding _ | .opening | .requesting | .connecting => 4
  | .spawned => 5

/-- The call was not answered yet. -/
def isUnanswered : Driver → Bool
  | .spawned | .connecting | .requesting => true
  | _ => false

theorem aloneLeft_le (d : Driver) : d.aloneLeft ≤ 5 := by
  cases d <;> simp [aloneLeft]

end Driver

namespace Task

variable {t t' : Task} {a : Act} {ctx : Ctx}

/-- The items in the queue and those to come. -/
def demand (t : Task) : Nat := t.queue.length + t.driver.sendsLeft

/-- When the timer fires; a task that was just spawned sets it first. -/
def fires (t : Task) (ctx : Ctx) : Int := match t.driver with
  | .spawned => deadlineInstant ctx.deadlineUsec ctx.now
  | _ => t.timer

/-- The way out is free: the queue has room, and if the call was not answered the timer has
fired. -/
structure Frees (t : Task) (ctx : Ctx) : Prop where
  room : t.demand ≤ STREAM_MSG_BUFFER
  due : t.driver.isUnanswered = true → t.fires ctx ≤ ctx.now.val

/-- After its last item the task sends nothing. -/
theorem afterItem_sends (c : Cause) (now : I64) :
    (afterItem c now).sendsLeft = 0 ∧ (afterItem c now).isUnanswered = false
      ∧ (afterItem c now).aloneLeft ≤ 1 := by
  cases c <;> simp [afterItem, Driver.sendsLeft, Driver.isUnanswered, Driver.aloneLeft]

/-- What is sent stays in the queue, and a message that is taken has to be sent. -/
theorem Steps.demand_le (hs : t.Steps T answer ctx a t') (hg : ctx.gone = false) :
    t.demand ≤ t'.demand := by
  cases hs with
  | elapsed hd => obtain hd | hd := hd <;> simp [demand, hd, Driver.sendsLeft]
  | forwardFailed _ hg' | endFailed _ hg' => simp [hg] at hg'
  | ended hd => simp [demand, hd, Driver.sendsLeft]
  | _ hd => simp [demand, hd, Driver.sendsLeft]

/-- A task on its own comes nearer to its end, and neither opens nor closes its way out. -/
theorem Steps.frees_iff (hs : t.Steps T answer ctx a t') (hg : ctx.gone = false)
    (ha : a.needsPeer = false) :
    t'.driver.aloneLeft < t.driver.aloneLeft ∧ (t'.Frees ctx ↔ t.Frees ctx) := by
  have same (hdem : t'.demand = t.demand)
      (hdue : (t'.driver.isUnanswered = true → t'.fires ctx ≤ ctx.now.val)
        ↔ (t.driver.isUnanswered = true → t.fires ctx ≤ ctx.now.val)) :
      t'.Frees ctx ↔ t.Frees ctx := by
    constructor
    · rintro ⟨hroom, hd⟩
      exact ⟨hdem ▸ hroom, hdue.mp hd⟩
    · rintro ⟨hroom, hd⟩
      exact ⟨hdem ▸ hroom, hdue.mpr hd⟩
  cases hs with
  | ready | notReady | headers | rejected | message | finish => cases ha
  | forwardFailed _ hg' | endFailed _ hg' => simp [hg] at hg'
  | elapsed hd ht =>
      obtain hd | hd := hd <;> refine ⟨by simp [hd, Driver.aloneLeft], same ?_ ?_⟩ <;>
        simp [demand, fires, hd, ht, Driver.sendsLeft, Driver.isUnanswered]
  | @ended c now hd =>
      obtain ⟨hsends, hanswered, hleft⟩ := afterItem_sends c now
      refine ⟨?_, same ?_ ?_⟩
      · rw [hd]
        exact Nat.lt_succ_of_le hleft
      · rw [demand, demand, hd, hsends, List.length_append]
        rfl
      · simp only [hd, hanswered]
        exact iff_of_true nofun nofun
  | _ hd =>
      refine ⟨by simp [hd, Driver.aloneLeft], same ?_ ?_⟩ <;>
        simp [demand, fires, hd, Driver.sendsLeft, Driver.isUnanswered]

variable (T answer) in
/-- A task that cannot go on by itself has returned exactly if its way out was free. -/
theorem hasReturned_iff_frees (hc : ctx.cancelled = true) (hg : ctx.gone = false)
    (hq : t.queue.length ≤ STREAM_MSG_BUFFER)
    (hstuck : ∀ a, a.needsPeer = false → t.step T answer ctx a = none) :
    t.driver.hasReturned = true ↔ t.Frees ctx := by
  have hproceed := hstuck .proceed rfl
  have hcancelled := hstuck .cancelled rfl
  have hdeadline := hstuck .deadline rfl
  unfold Task.step at hproceed hcancelled hdeadline
  cases hd : t.driver with
  | spawned | opening | refusing | delivering => simp [hd] at hproceed
  | reading => simp [hd, hc] at hcancelled
  | connecting | requesting =>
      refine iff_of_false (by simp [Driver.hasReturned]) fun hf ↦ ?_
      have hdue := hf.due (by rw [hd]; rfl)
      simp only [fires, hd] at hdue
      simp [hd, hdue] at hdeadline
  | forwarding | ending =>
      refine iff_of_false (by simp [Driver.hasReturned]) fun hf ↦ ?_
      have hroom := hf.room
      simp only [demand, hd, Driver.sendsLeft] at hroom
      simp [hd, hg, Queue.send] at hproceed
      omega
  | returned =>
      refine iff_of_true rfl ⟨?_, ?_⟩
      · simpa [demand, hd, Driver.sendsLeft] using hq
      · simp [hd, Driver.isUnanswered]

end Task

/-! ## The system -/

/-- A step of the task that does not wait for the peer. -/
def Label.isAlone : Label → Bool
  | .driver a => !a.needsPeer
  | _ => false

namespace Sys

variable {s s' t : Sys} {l : Label}

/-- The token has fired, and PHP is outside `startBatch`. -/
structure Cancelled (s : Sys) : Prop where
  token : s.world.call.cancelToken = true
  idle : s.php = .idle

/-- A cancelled call stays so until it is dropped, and nothing is taken from the queue. -/
theorem Cancelled.moves (h : s.Cancelled) (hl : l ≠ .drop) (hm : s.Moves T answer l s') :
    s'.Cancelled ∧ s.task.demand ≤ s'.task.demand := by
  have hgone : s.ctx.gone = false := isGone_of_idle h.idle
  have busy (ha : s.Advances T s') : False := by
    have := ha.isBusy
    rw [h.idle] at this
    cases this
  have admitted {b : BatchOps} {ops : ZendHashTable} (ha : Admitted s.world.call ops b) :
      False := by
    have := ha.notCancelled
    rw [h.token] at this
    cases this
  cases hm with
  | begins _ he =>
      cases he with
      | refused => exact ⟨⟨h.token, rfl⟩, Nat.le_refl _⟩
      | empty => exact ⟨⟨h.token, h.idle⟩, Nat.le_refl _⟩
      | noSender ha | sends ha | passes ha => exact (admitted ha).elim
  | php ha => exact (busy ha).elim
  | selects _ ha => exact (busy ha).elim
  | @turns a =>
      refine ⟨⟨?_, h.idle⟩, Nat.le_refl _⟩
      cases a with
      | cancel => rfl
      | closeChannel => exact h.token
      | setCredentials => exact h.token
  | drops => exact absurd rfl hl
  | driver hs => exact ⟨⟨h.token, h.idle⟩, hs.demand_le hgone⟩
  | pulls | abandons | ticks => exact ⟨⟨h.token, h.idle⟩, Nat.le_refl _⟩

/-- The steps of the task on its own. -/
theorem Cancelled.alone (h : s.Cancelled) (hl : l.isAlone = true) (hm : s.Moves T answer l s') :
    s'.Cancelled ∧ s'.task.driver.aloneLeft < s.task.driver.aloneLeft
      ∧ (s'.task.Frees s'.ctx ↔ s.task.Frees s.ctx) := by
  refine ⟨(h.moves (by rintro rfl; cases hl) hm).1, ?_⟩
  cases hm with
  | driver hs => exact hs.frees_iff (isGone_of_idle h.idle) (by simpa [Label.isAlone] using hl)
  | _ => cases hl

end Sys

/-- **When a cancelled call ends.**  Take any reachable state in which the call is cancelled and
PHP still has it.  On its own, the task makes at most five steps, and then has returned exactly
if the queue had room for what the task has yet to put there and the call was answered or its
deadline has passed.  If the queue had no room, the task does not return in any run at all, with
whatever steps of PHP, peer and clock, before PHP drops the call. -/
theorem cancelled_task_ends_iff {s₀ s : Sys} {ls : List Label} (h₀ : Sys.Initial answer s₀)
    (h : Run (pgraph (Sys.step T answer)) s₀ ls s) (hc : s.Cancelled) :
    (∀ ls' t, Run (Such (pgraph (Sys.step T answer)) fun _ l ↦ l.isAlone = true) s ls' t →
        ls'.length ≤ 5 ∧ ((∀ l, l.isAlone = true → t.step T answer l = none) →
          (t.closed = true ↔ s.task.Frees s.ctx)))
      ∧ (STREAM_MSG_BUFFER < s.task.demand →
        ∀ ls' t, Run (Such (pgraph (Sys.step T answer)) fun _ l ↦ l ≠ .drop) s ls' t →
          t.closed = false) := by
  constructor
  · intro ls' t h'
    have halone : t.Cancelled ∧ (t.task.Frees t.ctx ↔ s.task.Frees s.ctx) :=
      h'.state_invariant (I := fun t ↦ t.Cancelled ∧ (t.task.Frees t.ctx ↔ s.task.Frees s.ctx))
        ⟨hc, Iff.rfl⟩ fun _ _ _ hI hs ↦ by
          obtain ⟨hc', -, hfrees⟩ := hI.1.alone hs.1 (Sys.step_moves hs.2)
          exact ⟨hc', hfrees.trans hI.2⟩
    have hlen := h'.length_le_potential (I := Sys.Cancelled)
      (f := fun t ↦ t.task.driver.aloneLeft) hc
      (fun _ _ _ hI hs ↦ (hI.alone hs.1 (Sys.step_moves hs.2)).1)
      (fun _ _ _ hI hs ↦ (hI.alone hs.1 (Sys.step_moves hs.2)).2.1)
    refine ⟨?_, fun hstuck ↦ ?_⟩
    · have := s.task.driver.aloneLeft_le
      omega
    · have hbounded := (Sys.responses_of_run h₀ (h.append h'.of_such)).bounded
      rw [← halone.2]
      refine Task.hasReturned_iff_frees T answer halone.1.token
        (Sys.isGone_of_idle halone.1.idle) hbounded fun a ha ↦ ?_
      have hnone := hstuck (.driver a) (by simp [Label.isAlone, ha])
      rwa [Sys.step, Option.map_eq_none_iff] at hnone
  · intro hfull ls' t h'
    have hgrows : t.Cancelled ∧ s.task.demand ≤ t.task.demand :=
      h'.state_invariant (I := fun t ↦ t.Cancelled ∧ s.task.demand ≤ t.task.demand)
        ⟨hc, Nat.le_refl _⟩ fun _ _ _ hI hs ↦ by
          obtain ⟨hc', hle⟩ := hI.1.moves hs.1 (Sys.step_moves hs.2)
          exact ⟨hc', hI.2.trans hle⟩
    have hbounded := (Sys.responses_of_run h₀ (h.append h'.of_such)).bounded
    by_contra hclosed
    rw [Bool.not_eq_false, Sys.closed] at hclosed
    have hdemand : t.task.demand = t.task.queue.length := by
      cases hd : t.task.driver with
      | returned => simp [Task.demand, hd, Driver.sendsLeft]
      | _ => simp [hd, Driver.hasReturned] at hclosed
    omega

/-- A server sends 33 messages to a PHP thread that does not read, which then cancels the call:
the task stays parked. -/
theorem cancelled_task_ends_iff_parked :
    let answer : Answer := .response ⟨[], List.replicate 33 [1], .clean (.ok none)⟩
    let ls : List Label := [.driver .proceed, .driver .ready, .driver .headers, .driver .proceed]
      ++ (List.replicate 32 [.driver .message, .driver .proceed]).flatten
      ++ [.driver .message, .aside .cancel]
    ∃ s, Run (pgraph (Sys.step Tonic.ascii answer)) (.server answer I64.max) ls s ∧ s.Cancelled ∧
      ∀ ls' t, Run (Such (pgraph (Sys.step Tonic.ascii answer)) fun _ l ↦ l ≠ .drop) s ls' t →
        t.closed = false := by
  intro answer ls
  obtain ⟨s, hrun, hs⟩ := Run.exists_of_any (Sys.step Tonic.ascii answer)
    (.server answer I64.max) ls
    (fun s ↦ s.world.call.cancelToken = true ∧ (s.php.isBusy = false ∧ s.isGone = false)
      ∧ STREAM_MSG_BUFFER < s.task.demand) (by decide)
  obtain ⟨htoken, ⟨hbusy, hgone⟩, hfull⟩ := of_decide_eq_true hs
  have hidle : s.php = .idle := by
    cases hp : s.php with
    | idle => rfl
    | gone => simp [Sys.isGone, hp] at hgone
    | _ => simp [hp, Thread.isBusy] at hbusy
  exact ⟨s, hrun, ⟨htoken, hidle⟩,
    (cancelled_task_ends_iff (Sys.server_initial _ _) hrun ⟨htoken, hidle⟩).2 hfull⟩

end GrpcPhp
