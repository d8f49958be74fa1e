import GrpcPhp.Stream.Deadline
import GrpcPhp.Lib.Potential

/-!
# A call that was dropped

PHP may drop a call object while its stream is open.  Nothing tells the task: the token does
not fire, and the transport goes on.  The task finds out at its next send, which fails; a
failed forward ends it, and a failed last item is ignored on the way to the end.  So it takes
at most one more message, and with the receivers gone no queue holds it up.  Of what it still
does PHP sees one thing: the connectivity state of the channel, which the task writes when the
call is answered.
-/

namespace GrpcPhp

open Lib Php

variable {T : Tonic} {answer : Answer}

/-! ## The task -/

/-- The steps left at a program point of the task when nobody receives. -/
def Driver.stepsLeft : Driver → Nat
  | .returned _ => 0
  | .forwarding _ | .delivering _ _ => 1
  | .ending _ _ => 2
  | .refusing _ | .reading => 3
  | .opening => 4
  | .requesting => 5
  | .connecting => 6
  | .spawned => 7

/-- The messages the task may still take when nobody receives. -/
def Driver.messagesLeft : Driver → Nat
  | .spawned | .connecting | .requesting | .opening | .reading => 1
  | .refusing _ | .forwarding _ | .ending _ _ | .delivering _ _ | .returned _ => 0

/-- How often the task may still write the connectivity state. -/
def Driver.answersLeft : Driver → Nat
  | .spawned | .connecting | .requesting => 1
  | .opening | .refusing _ | .reading | .forwarding _ | .ending _ _ | .delivering _ _
  | .returned _ => 0

theorem Driver.answersLeft_le (d : Driver) : d.answersLeft ≤ 1 := by
  cases d <;> simp [Driver.answersLeft]

theorem Driver.stepsLeft_le (d : Driver) : d.stepsLeft ≤ 7 := by
  cases d <;> simp [Driver.stepsLeft]

theorem Driver.messagesLeft_le (d : Driver) : d.messagesLeft ≤ 1 := by
  cases d <;> simp [Driver.messagesLeft]

/-- The step at which the call is answered. -/
def Act.answers : Act → Bool
  | .headers | .rejected => true
  | .ready | .notReady | .message | .finish | .deadline | .cancelled | .proceed => false

namespace Task

variable {t t' : Task} {a : Act} {ctx : Ctx}

/-- After its last item the task is as good as done. -/
theorem afterItem_left (c : Cause) (now : I64) :
    (afterItem c now).stepsLeft ≤ 1 ∧ (afterItem c now).messagesLeft = 0 := by
  cases c <;> simp [afterItem, Driver.stepsLeft, Driver.messagesLeft]

/-- A task to which nobody listens comes nearer to its end. -/
theorem Steps.stepsLeft_lt (hs : t.Steps T answer ctx a t') (hg : ctx.gone = true) :
    t'.driver.stepsLeft < t.driver.stepsLeft := by
  cases hs with
  | elapsed hd => obtain hd | hd := hd <;> simp [hd, Driver.stepsLeft]
  | forwarded _ hg' | ended _ hg' => simp [hg] at hg'
  | @endFailed c now hd =>
      have := (afterItem_left c now).1
      rw [hd]
      exact Nat.lt_succ_of_le this
  | _ hd => simp [hd, Driver.stepsLeft]

/-- A task to which nobody listens takes no message but the next. -/
theorem Steps.messagesLeft_le (hs : t.Steps T answer ctx a t') (hg : ctx.gone = true) :
    t.unread.length + t'.driver.messagesLeft ≤ t'.unread.length + t.driver.messagesLeft := by
  cases hs with
  | elapsed hd => obtain hd | hd := hd <;> simp [hd, Driver.messagesLeft]
  | message hd hu => simp [hd, hu, Driver.messagesLeft]
  | forwarded _ hg' | ended _ hg' => simp [hg] at hg'
  | @endFailed c now hd =>
      rw [(afterItem_left c now).2]
      exact Nat.le_add_right _ _
  | _ hd => simp [hd, Driver.messagesLeft]

/-- The call is answered once. -/
theorem Steps.answersLeft_le (hs : t.Steps T answer ctx a t') :
    t'.driver.answersLeft + a.answers.toNat ≤ t.driver.answersLeft := by
  cases hs with
  | elapsed hd => obtain hd | hd := hd <;> simp [hd, Driver.answersLeft, Act.answers]
  | @ended c now hd | @endFailed c now hd =>
      rw [hd]
      cases c <;> exact Nat.le_refl _
  | _ hd => simp [hd, Driver.answersLeft, Act.answers]

/-- A task to which nobody listens is not held up by the queue. -/
theorem step_proceed_isSome_of_gone (hr : t.driver.hasReturned = false)
    (ha : t.driver.awaits = false) (hg : ctx.gone = true) :
    (t.step T answer ctx .proceed).isSome = true := by
  unfold Task.step
  cases hd : t.driver with
  | spawned | opening | refusing | delivering => rfl
  | forwarding | ending => simp [hg]
  | connecting | requesting | reading => simp [hd, Driver.awaits] at ha
  | returned => simp [hd, Driver.hasReturned] at hr

end Task

/-! ## The system -/

/-- A step of the task. -/
def Label.isDriver : Label → Bool
  | .driver _ => true
  | _ => false

/-- The step at which the call is answered. -/
def Label.isAnswer : Label → Bool
  | .driver a => a.answers
  | _ => false

namespace Sys

variable {s s' t : Sys} {l : Label}

/-- The connectivity state is written when the call is answered. -/
theorem answered_eq (s : Sys) (answer : Answer) {a : Act} (h : a.answers = false) :
    s.answered answer a = s.world.connectivity := by
  unfold answered
  split
  · split
    · cases h
    · cases h
    · rfl
  · rfl

/-- Inside the system, nobody but the task, the transport and the clock does anything once the
call was dropped. -/
structure Outlives (s t : Sys) : Prop where
  gone : t.isGone = true
  log : t.world.log = s.world.log
  messages : s.task.unread.length + t.task.driver.messagesLeft
    ≤ t.task.unread.length + s.task.driver.messagesLeft

theorem Outlives.refl (hg : s.isGone = true) : s.Outlives s := ⟨hg, rfl, Nat.le_refl _⟩

theorem isGone_iff : s.isGone = true ↔ s.php = .gone := by
  unfold isGone
  split
  · next hp => exact ⟨fun _ ↦ hp, fun _ ↦ rfl⟩
  · next hp => exact ⟨nofun, fun h ↦ absurd h hp⟩

/-- What one step can do. -/
theorem Outlives.moves (h : s.Outlives t) (hm : t.Moves T answer l s') :
    s.Outlives s' ∧ s'.task.driver.stepsLeft + l.isDriver.toNat ≤ t.task.driver.stepsLeft
      ∧ s'.task.driver.answersLeft + l.isAnswer.toNat ≤ t.task.driver.answersLeft
      ∧ (l.isAnswer = false → s'.world.connectivity = t.world.connectivity) := by
  have hgone := isGone_iff.mp h.gone
  have busy (ha : t.Advances T s') : False := by
    cases ha with
    | trailers hp => obtain hp | hp := hp <;> cases hgone.symm.trans hp
    | _ hp => cases hgone.symm.trans hp
  cases hm with
  | begins hp => cases hgone.symm.trans hp
  | php ha => exact (busy ha).elim
  | selects _ ha => exact (busy ha).elim
  | turns hp | drops hp => cases hgone.symm.trans hp
  | driver hs =>
      have hctx : t.ctx.gone = true := h.gone
      refine ⟨⟨h.gone, h.log, ?_⟩, hs.stepsLeft_lt hctx, hs.answersLeft_le,
        fun hl ↦ t.answered_eq answer hl⟩
      have := hs.messagesLeft_le hctx
      have := h.messages
      rw [afterTask_task]
      omega
  | pulls | abandons | ticks =>
      exact ⟨⟨h.gone, h.log, h.messages⟩, Nat.le_refl _, Nat.le_refl _, fun _ ↦ rfl⟩

/-- What holds of a step holds of a run. -/
theorem outlives_of_run {ls : List Label} (hg : s.isGone = true)
    (h : Run (pgraph (step T answer)) s ls t) : s.Outlives t :=
  h.state_invariant (.refl hg) fun _ _ _ hI hs ↦ (hI.moves (step_moves hs)).1

/-- A measure of the task that the steps in `p` lower bounds their number. -/
theorem countP_le_of_run {ls : List Label} {f : Driver → ℕ} {p : Label → Bool}
    (hg : s.isGone = true) (h : Run (pgraph (step T answer)) s ls t)
    (hstep : ∀ u l v, s.Outlives u → u.Moves T answer l v →
      f v.task.driver + (p l).toNat ≤ f u.task.driver) :
    ls.countP p ≤ f s.task.driver := by
  have hcount := h.potential (I := s.Outlives) (f := fun t ↦ f t.task.driver) (p := p)
    (q := fun _ ↦ false) (c := 0) (.refl hg) (fun _ _ _ hI hs ↦ (hI.moves (step_moves hs)).1)
    fun u l v hI hs ↦ hstep u l v hI (step_moves hs)
  omega

/-- Until the call is answered the connectivity state stays. -/
theorem connectivity_of_run {ls : List Label} (hg : s.isGone = true)
    (h : Run (pgraph (step T answer)) s ls t) (hzero : ls.countP Label.isAnswer = 0) :
    t.world.connectivity = s.world.connectivity := by
  refine (h.invariant (I := fun ls t ↦ s.Outlives t ∧ (ls.countP Label.isAnswer = 0 →
    t.world.connectivity = s.world.connectivity)) ⟨.refl hg, fun _ ↦ rfl⟩ ?_).2 hzero
  rintro ls u l v ⟨hI, ih⟩ hs
  obtain ⟨hI', -, -, hkeep⟩ := hI.moves (step_moves hs)
  refine ⟨hI', fun hzero ↦ ?_⟩
  rw [List.countP_append, Nat.add_eq_zero_iff] at hzero
  exact (hkeep (by simpa using hzero.2)).trans (ih hzero.1)

end Sys

/-- **The task of a dropped call ends.**  From any reachable state in which the call has been
dropped, the task makes at most seven more steps and takes at most one more message from the
transport, whatever else happens, and PHP is given nothing by the call.  The channel's
connectivity state is written at most once, when the call is answered.  The task never waits for
anything but the transport, and once the deadline has passed not even for that. -/
theorem dropped_task_ends {s₀ s t : Sys} {ls ls' : List Label} (h₀ : Sys.Initial answer s₀)
    (h : Run (pgraph (Sys.step T answer)) s₀ ls s) (hg : s.isGone = true)
    (h' : Run (pgraph (Sys.step T answer)) s ls' t) :
    ls'.countP Label.isDriver ≤ 7
      ∧ s.task.unread.length ≤ t.task.unread.length + 1
      ∧ t.world.log = s.world.log
      ∧ ls'.countP Label.isAnswer ≤ 1
      ∧ (ls'.countP Label.isAnswer = 0 → t.world.connectivity = s.world.connectivity)
      ∧ (t.closed = false → t.task.driver.awaits = false ∨
          t.Timed ∧ t.world.call.deadlineUsec.val ≤ t.now.val →
        ∃ a, a.needsPeer = false ∧ (t.step T answer (.driver a)).isSome = true) := by
  have hout := Sys.outlives_of_run hg h'
  have hsteps : ls'.countP Label.isDriver ≤ s.task.driver.stepsLeft :=
    Sys.countP_le_of_run hg h' fun _ _ _ hI hm ↦ (hI.moves hm).2.1
  have hanswers : ls'.countP Label.isAnswer ≤ s.task.driver.answersLeft :=
    Sys.countP_le_of_run hg h' fun _ _ _ hI hm ↦ (hI.moves hm).2.2.1
  refine ⟨hsteps.trans (Driver.stepsLeft_le _), ?_, hout.log,
    hanswers.trans (Driver.answersLeft_le _), Sys.connectivity_of_run hg h', fun hopen hlate ↦ ?_⟩
  · have := hout.messages
    have := s.task.driver.messagesLeft_le
    omega
  · simp only [Sys.step, Option.isSome_map]
    cases ha : t.task.driver.awaits with
    | false => exact ⟨.proceed, rfl, Task.step_proceed_isSome_of_gone hopen ha hout.gone⟩
    | true =>
        obtain ⟨htimed, hpast⟩ := hlate.resolve_left (by simp [ha])
        have hrun := h.append h'
        exact ⟨.deadline, rfl, Sys.step_deadline_isSome_of_run h₀ hrun htimed hpast ha⟩

/-- A call is dropped while a message is on its way. -/
theorem dropped_task_ends_reading :
    let answer : Answer := .response ⟨[], [[1], [2]], .clean (.ok none)⟩
    let ls : List Label :=
      [.driver .proceed, .driver .ready, .driver .headers, .driver .proceed, .drop]
    let ls' : List Label := [.driver .message, .driver .proceed]
    ∃ s t, Run (pgraph (Sys.step Tonic.ascii answer)) (.server answer I64.max) ls s ∧
      Run (pgraph (Sys.step Tonic.ascii answer)) s ls' t ∧ s.isGone = true ∧
      ls'.countP Label.isDriver ≤ 7 ∧ s.task.unread.length ≤ t.task.unread.length + 1 ∧
      t.world.log = s.world.log ∧ ls'.countP Label.isAnswer ≤ 1 ∧
      (ls'.countP Label.isAnswer = 0 → t.world.connectivity = s.world.connectivity) ∧
      (t.closed = false → t.task.driver.awaits = false ∨
          t.Timed ∧ t.world.call.deadlineUsec.val ≤ t.now.val →
        ∃ a, a.needsPeer = false ∧ (t.step Tonic.ascii answer (.driver a)).isSome = true) :=
  have hrun := Run.of_foldlM rfl
  have hrun' := Run.of_foldlM rfl
  ⟨_, _, hrun, hrun', rfl, dropped_task_ends (Sys.server_initial _ _) hrun rfl hrun'⟩

end GrpcPhp
