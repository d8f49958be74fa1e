import GrpcPhp.Stream.Deadline
import GrpcPhp.Stream.Flow
import GrpcPhp.Stream.Refinement

/-!
# Every batch ends

Neither party runs forever.  A step of the PHP thread brings it forward in its batch or takes
an item from the queue; a step of the task brings it forward in the call or moves a message
of the response along.  `Sys.work` adds up what is left: a message the transport has still to
yield is worth three steps, its receipt, its way into the queue and its way out, and an item
in the queue one.  Only `startBatch` adds to it.

Together with the absence of deadlocks this makes waiting finite.  Whatever the schedule, the
steps of the two parties lead to the end of a receive batch, if the transport answers; and
once the deadline has passed they lead there without it.
-/

namespace GrpcPhp

open Lib Php

variable {T : Tonic} {answer : Answer}

/-! ## The work left -/

/-- The steps left at a program point of the task, with those for the items it puts into the
queue on the way. -/
def Driver.work : Driver → Nat
  | .returned _ => 0
  | .delivering _ _ => 1
  | .ending _ _ => 3
  | .refusing _ | .reading => 4
  | .opening => 5
  | .forwarding _ | .requesting => 6
  | .connecting => 7
  | .spawned => 8

/-- The steps left at a program point of the PHP thread, less those that take from the queue. -/
def Thread.work : Thread → Nat
  | .idle | .gone => 0
  | .trailing _ _ => 1
  | .draining _ _ => 2
  | .status _ _ => 3
  | .waiting _ _ => 4
  | .message _ _ => 5
  | .headers _ _ => 6
  | .sending _ _ => 7

/-- The steps left to a task and to what it puts into the queue. -/
def Task.work (t : Task) : Nat := t.driver.work + 3 * t.unread.length + t.queue.length

/-- The steps left. -/
def Sys.work (s : Sys) : Nat := s.task.work + s.php.work

/-- A step of one of the two parties. -/
def Label.isParty : Label → Bool
  | .php | .select _ | .driver _ => true
  | .begin _ | .aside _ | .drop | .pull | .abandon | .tick _ => false

/-- The start of a batch. -/
def Label.isBegin : Label → Bool
  | .begin _ => true
  | _ => false

theorem Driver.work_le (d : Driver) : d.work ≤ 8 := by
  cases d <;> simp [Driver.work]

theorem Thread.work_le_of_receives {php : Thread} (h : php.receives = true) : php.work ≤ 6 := by
  cases php with
  | idle | sending | gone => cases h
  | _ => simp [Thread.work]

theorem Task.afterItem_work_le (c : Cause) (now : I64) : (Task.afterItem c now).work ≤ 1 := by
  cases c <;> simp [Task.afterItem, Driver.work]

/-- The task brings its work forward. -/
theorem Task.Steps.work_lt {t t' : Task} {a : Act} {ctx : Ctx} (hs : t.Steps T answer ctx a t') :
    t'.work < t.work := by
  unfold Task.work
  cases hs with
  | elapsed hd => obtain hd | hd := hd <;> simp [hd, Driver.work]
  | message hd hu => simp [hd, hu, Driver.work]; omega
  | forwarded hd => simp [hd, Driver.work]; omega
  | @ended c now hd =>
      have hafter := afterItem_work_le c now
      have hend : t.driver.work = 3 := by rw [hd]; rfl
      simp only [List.length_append, List.length_singleton]
      omega
  | @endFailed c now hd =>
      have hafter := afterItem_work_le c now
      have hend : t.driver.work = 3 := by rw [hd]; rfl
      dsimp only
      omega
  | _ hd => simp [hd, Driver.work]

/-- The PHP thread takes from the queue at most. -/
theorem Task.work_le_of_suffix {t : Task} {q : List Item} (hq : q <:+ t.queue) :
    ({ t with queue := q } : Task).work ≤ t.work := by
  have := hq.length_le
  simp only [Task.work]
  omega

namespace Sys

variable {s s' : Sys} {l : Label}

theorem work_afterSend_le (s : Sys) (j : Batch) : (s.afterSend j).work ≤ s.task.work + 6 := by
  rw [work, afterSend_task]
  rcases s.afterSend_php j with h | h <;> simp [h, Thread.work]

/-- The PHP thread brings its work forward. -/
theorem Advances.work_lt (ha : s.Advances T s') : s'.work < s.work := by
  cases ha with
  | sendFailed hp => simp [work, hp, Sys.raise, Thread.work]
  | sent hp =>
      refine (work_afterSend_le _ _).trans_lt ?_
      simp [work, hp, Thread.work]
  | received hp _ _ hr =>
      have := Task.work_le_of_suffix (Queue.recv_suffix hr)
      simp only [work, Sys.gotMessage, hp, Thread.work]
      omega
  | woken hp hr =>
      have := Task.work_le_of_suffix (Queue.recv_suffix hr)
      simp only [work, Sys.gotMessage, hp, Thread.work]
      omega
  | drained hp hr =>
      have := Task.work_le_of_suffix (Queue.recv_suffix hr)
      simp only [work, hp, Thread.work]
      omega
  | discarded hp hq => simp [work, Task.work, hq, hp, Thread.work]
  | trailers hp =>
      obtain hp | hp := hp <;> simp [work, Sys.gotStatus, Sys.complete, hp, Thread.work]
  | awaited hp | notAwaited hp => simp [work, Sys.gotHeaders, hp, Thread.work]
  | empty hp | drains hp => simp [work, hp, Thread.work]
  | noMessage hp => simp [work, Sys.gotMessage, hp, Thread.work]
  | noDrain hp => simp [work, Sys.gotStatus, Sys.complete, hp, Thread.work]

/-- The start of a batch adds the batch. -/
theorem Enters.work_le {ops : ZendHashTable} (hp : s.php = .idle) (he : s.Enters ops s') :
    s'.work ≤ s.work + 7 := by
  cases he with
  | passes =>
      refine (work_afterSend_le _ _).trans ?_
      dsimp only [work]
      omega
  | _ => simp [work, Sys.raise, hp, Thread.work]

theorem Moves.work_le (hm : s.Moves T answer l s') :
    s'.work + l.isParty.toNat ≤ s.work + 7 * l.isBegin.toNat := by
  cases hm with
  | begins hp he => exact he.work_le hp
  | php ha => exact ha.work_lt
  | selects _ ha => exact ha.work_lt
  | driver hs => exact Nat.add_lt_add_right hs.work_lt _
  | drops hp => simp [work, hp, Thread.work, Label.isParty, Label.isBegin]
  | turns | pulls | abandons | ticks => exact Nat.le_refl _

end Sys

/-- **The two parties make finitely many steps.**  In every run, however it is scheduled, the
PHP thread and the task make at most three steps for each message of the response, seven for
each batch, and fifteen more. -/
theorem steps_le_of_run {s₀ s : Sys} {ls : List Label} (h₀ : Sys.Initial answer s₀)
    (h : Run (pgraph (Sys.step T answer)) s₀ ls s) :
    ls.countP Label.isParty ≤ 15 + 3 * answer.messages.length + 7 * ls.countP Label.isBegin := by
  have hrun := h.potential (I := fun _ ↦ True) (f := Sys.work) trivial (fun _ _ _ _ _ ↦ trivial)
    fun _ _ _ _ hs ↦ (Sys.step_moves hs).work_le
  have hstart : s₀.work ≤ 15 + 3 * answer.messages.length := by
    cases h₀ with
    | @spawned bidi call connectivity php now hphp =>
        have hphp : php.work ≤ 7 := by
          cases php with
          | idle | sending | headers => simp [Thread.work]
          | _ => exact hphp.elim
        simp only [Sys.work, Sys.spawn, Task.work, Task.spawn, Driver.work, List.length_nil]
        omega
  omega

/-- A response of one message, read to its end in three batches. -/
theorem steps_le_of_run_one :
    let answer : Answer := .response ⟨[], [[1]], .clean (.ok none)⟩
    let read : Label := .begin [Op.recvMessage.flag]
    let ls : List Label := [read, .php, .php, .driver .proceed, .driver .ready, .driver .headers,
      .driver .proceed, .driver .message, .driver .proceed, .php, .php, read, .php, .php,
      .driver .finish, .driver .proceed, .php, .php, .begin [Op.recvStatusOnClient.flag], .php,
      .php, .php, .driver .proceed, .select .trailers]
    (∃ s, Run (pgraph (Sys.step Tonic.ascii answer)) (.server answer I64.max) ls s) ∧
      ls.countP Label.isParty ≤ 15 + 3 * answer.messages.length + 7 * ls.countP Label.isBegin := by
  intro answer read ls
  obtain ⟨s, hrun, -⟩ := Run.exists_of_any (Sys.step Tonic.ascii answer) (.server answer I64.max) ls
    (fun _ ↦ true) (by decide)
  exact ⟨⟨s, hrun⟩, steps_le_of_run (Sys.server_initial _ _) hrun⟩

/-! ## A receive batch in progress -/

namespace Sys

variable {s s' t : Sys} {start : I64} {j : Batch} {l : Label}

/-- The batch `j` that is in progress in `s` still is, or has returned since. -/
def Pursues (s : Sys) (j : Batch) (t : Sys) : Prop :=
  (t.php.receives = true ∧ t.php.batch = some j ∧ t.world.log = s.world.log)
    ∨ (t.php = .idle ∧ ∃ r, t.world.log = s.world.log ++ [.returned j.ops r])

/-- The stages of `build_stream_result` belong to one batch, and the last one returns. -/
theorem Advances.pursues (ha : t.Advances T s') (hr : t.php.receives = true)
    (hj : t.php.batch = some j) : t.Pursues j s' := by
  have stage {php : Thread} {b : Batch} (hp : t.php = php) (hb : php.batch = some b) : b = j :=
    Option.some.inj (hb.symm.trans (hp ▸ hj))
  cases ha with
  | sendFailed hp => rw [hp] at hr; cases hr
  | sent hp => rw [hp] at hr; cases hr
  | @trailers k _ hp =>
      obtain rfl : k = j := by obtain hp | hp := hp <;> exact stage hp rfl
      exact .inr ⟨rfl, _, rfl⟩
  | noDrain hp =>
      cases stage hp rfl
      exact .inr ⟨rfl, _, rfl⟩
  | discarded => exact .inl ⟨hr, hj, rfl⟩
  | _ hp => exact .inl ⟨rfl, congrArg some (stage hp rfl), rfl⟩

/-- The steps of the two parties carry on with the batch. -/
theorem Pursues.moves (h : s.Pursues j t) (hl : l.isParty = true) (hm : t.Moves T answer l s') :
    s.Pursues j s' := by
  have advances (ha : t.Advances T s') : s.Pursues j s' := by
    obtain ⟨hr, hj, hlog⟩ | ⟨hp, -⟩ := h
    · rw [Pursues, ← hlog]
      exact ha.pursues hr hj
    · have := ha.isBusy
      rw [hp] at this
      cases this
  cases hm with
  | php ha => exact advances ha
  | selects _ ha => exact advances ha
  | driver => exact h
  | _ => cases hl

/-- A batch in progress returns before the steps that `p` allows run out, if these are the PHP
thread's and, whenever the task is not held up by the queue, one of the task's. -/
theorem Pursues.returned {p : Label → Bool} (h : s.Pursues j t) (hc : t.Coherent T answer start)
    (hphp : p .php = true) (hselect : ∀ arm, p (.select arm) = true)
    (hdriver : t.isGone = false → t.closed = false → ¬ t.task.Parked →
      ∃ a, p (.driver a) = true ∧ (t.task.step T answer t.ctx a).isSome = true)
    (hstuck : ∀ l, p l = true → t.step T answer l = none) :
    t.php = .idle ∧ ∃ r, t.world.log = s.world.log ++ [.returned j.ops r] := by
  refine h.resolve_left fun ⟨hr, _⟩ ↦ ?_
  have hb : t.Blocked T := ⟨hr, hstuck _ hphp, fun arm ↦ hstuck _ (hselect arm)⟩
  obtain ⟨hopen, hpark⟩ := hc.of_blocked hb
  obtain ⟨a, ha, hsome⟩ := hdriver hb.isGone hopen hpark
  have hnone := hstuck _ ha
  rw [Sys.step, Option.map_eq_none_iff] at hnone
  rw [hnone] at hsome
  cases hsome

/-- A batch in progress returns before the steps of the two parties run out. -/
theorem Pursues.returned_of_stuck (h : s.Pursues j t) (hc : t.Coherent T answer start)
    (hstuck : ∀ l, l.isParty = true → t.step T answer l = none) :
    t.php = .idle ∧ ∃ r, t.world.log = s.world.log ++ [.returned j.ops r] := by
  refine h.returned hc rfl (fun _ ↦ rfl) (fun hg hopen hpark ↦ ?_) hstuck
  cases ha : t.task.driver.awaits with
  | true =>
      obtain ⟨a, -, hsome⟩ : ∃ a, a.needsPeer = true ∧ (t.task.step T answer t.ctx a).isSome :=
        (hc.task hg).step_peer_isSome ha
      exact ⟨a, rfl, hsome⟩
  | false => exact ⟨.proceed, rfl, Task.step_proceed_isSome hopen ha hpark⟩

/-- A run of steps that are all the two parties' is as long as the work done at most, and
carries on with the batch. -/
theorem pursues_of_run {p : Label → Bool} {ls : List Label}
    (hp : ∀ l, p l = true → l.isParty = true) (hr : s.php.receives = true)
    (hj : s.php.batch = some j)
    (h : Run (Such (pgraph (step T answer)) fun _ l ↦ p l = true) s ls t) :
    t.work + ls.length ≤ s.work ∧ s.Pursues j t := by
  refine ⟨h.length_le_potential (I := fun _ ↦ True) trivial (fun _ _ _ _ _ ↦ trivial)
      fun _ l _ _ hs ↦ ?_,
    h.state_invariant (.inl ⟨hr, hj, rfl⟩) fun _ l _ hI hs ↦
      hI.moves (hp l hs.1) (step_moves hs.2)⟩
  have hwork := (step_moves hs.2).work_le
  cases l with
  | php | select | driver => exact hwork
  | _ => cases hp _ hs.1

/-- The work left to a receive batch. -/
theorem Responses.work_le (h : s.Responses answer) (hr : s.php.receives = true) :
    s.work ≤ 46 + 3 * s.task.unread.length := by
  have hd := s.task.driver.work_le
  have hp := Thread.work_le_of_receives hr
  have hq : s.task.queue.length ≤ 32 := h.bounded
  simp only [work, Task.work]
  omega

end Sys

/-- **A receive batch returns.**  Take any reachable state in which PHP is inside
`build_stream_result`, and let the two parties make steps in any order, where the transport
answers whenever it is asked.  They make at most three for each message that is still with the
transport and 46 more, and when there is none left to make the batch has returned. -/
theorem receive_returns {s₀ s t : Sys} {ls ls' : List Label} {j : Batch}
    (h₀ : Sys.Initial answer s₀) (h : Run (pgraph (Sys.step T answer)) s₀ ls s)
    (hr : s.php.receives = true) (hj : s.php.batch = some j)
    (h' : Run (Such (pgraph (Sys.step T answer)) fun _ l ↦ l.isParty = true) s ls' t) :
    ls'.length ≤ 46 + 3 * s.task.unread.length ∧
      ((∀ l, l.isParty = true → t.step T answer l = none) →
        t.php = .idle ∧ ∃ r, t.world.log = s.world.log ++ [.returned j.ops r]) := by
  obtain ⟨hlen, hpursues⟩ := Sys.pursues_of_run (fun _ hl ↦ hl) hr hj h'
  constructor
  · have := (Sys.responses_of_run h₀ h).work_le hr
    omega
  · have hc := Sys.coherent_of_run h₀ (h.append h'.of_such)
    exact hpursues.returned_of_stuck hc

/-- A batch that asks for the status while a message is on its way. -/
theorem receive_returns_drain :
    let answer : Answer := .response ⟨[], [[1]], .clean (.ok none)⟩
    let ask : Label := .begin [Op.recvStatusOnClient.flag]
    let ls' : List Label := [.php, .php, .driver .proceed, .driver .ready, .driver .headers, .php,
      .driver .proceed, .driver .message, .driver .proceed, .select .message, .driver .finish,
      .driver .proceed, .driver .proceed, .select .trailers]
    ∃ s t, Run (pgraph (Sys.step Tonic.ascii answer)) (.server answer I64.max) [ask] s ∧
      Run (Such (pgraph (Sys.step Tonic.ascii answer)) fun _ l ↦ l.isParty = true) s ls' t ∧
      ls'.length ≤ 46 + 3 * s.task.unread.length ∧ t.php = .idle ∧
      ∃ r, t.world.log = s.world.log ++ [.returned [Op.recvStatusOnClient.flag] r] :=
  have hrun := Run.of_foldlM rfl
  have hrun' := Run.of_foldlM_such rfl
  ⟨_, _, hrun, hrun', (receive_returns (Sys.server_initial _ _) hrun rfl rfl hrun').imp_right
    fun h ↦ h fun l hl ↦ by
      cases l with
      | php => rfl
      | select arm => cases arm <;> rfl
      | driver a => cases a <;> rfl
      | _ => cases hl⟩

/-! ## After the deadline -/

/-- A step of one of the two parties that does not wait for the peer. -/
def Label.isLocal : Label → Bool
  | .php | .select _ => true
  | .driver a => !a.needsPeer
  | .begin _ | .aside _ | .drop | .pull | .abandon | .tick _ => false

theorem Label.isParty_of_isLocal {l : Label} (h : l.isLocal = true) : l.isParty = true := by
  cases l with
  | php | select | driver => rfl
  | _ => cases h

namespace Sys

variable {s s' t : Sys} {l : Label}

/-- What stands still while nobody waits for the peer: the clock, the deadline, and the
messages that are still with the transport. -/
structure Still (s t : Sys) : Prop where
  now : t.now = s.now
  deadlineUsec : t.world.call.deadlineUsec = s.world.call.deadlineUsec
  unread : t.task.unread = s.task.unread

theorem Frame.still (h : s.Frame s') : s.Still s' := by
  obtain ⟨q, -, ht⟩ := h.task
  exact ⟨h.now, h.deadlineUsec, by rw [ht]⟩

theorem Moves.still (hm : s.Moves T answer l s') (hl : l.isLocal = true) : s.Still s' := by
  cases hm with
  | php ha => exact ha.frame.still
  | selects _ ha => exact ha.frame.still
  | driver hs =>
      refine ⟨rfl, rfl, ?_⟩
      cases hs with
      | message => cases hl
      | _ => rfl
  | _ => cases hl

theorem Still.trans (h : s.Still t) (h' : t.Still s') : s.Still s' :=
  ⟨h'.now.trans h.now, h'.deadlineUsec.trans h.deadlineUsec, h'.unread.trans h.unread⟩

end Sys

/-- **The deadline bounds every receive.**  Take any reachable state in which the deadline has
passed and PHP is inside `build_stream_result`, and let the two parties make steps in any
order, but none for which the peer is needed.  They make at most 46, and when there is none left
to make the batch has returned. -/
theorem expired_receive_returns {s₀ s t : Sys} {ls ls' : List Label} {j : Batch}
    (h₀ : Sys.Initial answer s₀) (h : Run (pgraph (Sys.step T answer)) s₀ ls s)
    (hr : s.php.receives = true) (hj : s.php.batch = some j) (ht : s.Timed)
    (hpast : s.world.call.deadlineUsec.val ≤ s.now.val)
    (h' : Run (Such (pgraph (Sys.step T answer)) fun _ l ↦ l.isLocal = true) s ls' t) :
    ls'.length ≤ 46 ∧
      ((∀ l, l.isLocal = true → t.step T answer l = none) →
        t.php = .idle ∧ ∃ r, t.world.log = s.world.log ++ [.returned j.ops r]) := by
  obtain ⟨hlen, hpursues⟩ := Sys.pursues_of_run (fun _ hl ↦ Label.isParty_of_isLocal hl) hr hj h'
  have hstill : s.Still t := h'.state_invariant ⟨rfl, rfl, rfl⟩
    fun _ _ _ hI hs ↦ hI.trans ((Sys.step_moves hs.2).still hs.1)
  have hrun := h.append h'.of_such
  constructor
  · have hwork := (Sys.responses_of_run h₀ h).work_le hr
    have hleft : 3 * t.task.unread.length ≤ t.work := by
      simp only [Sys.work, Task.work]
      omega
    rw [hstill.unread] at hleft
    omega
  · refine hpursues.returned (Sys.coherent_of_run h₀ hrun) rfl (fun _ ↦ rfl) fun hg hopen hpark ↦ ?_
    cases ha : t.task.driver.awaits with
    | true =>
        have htimed : t.Timed := by rwa [Sys.Timed, hstill.deadlineUsec]
        refine ⟨.deadline, rfl, Sys.step_deadline_isSome_of_run h₀ hrun htimed ?_ ha⟩
        rwa [hstill.deadlineUsec, hstill.now]
    | false => exact ⟨.proceed, rfl, Task.step_proceed_isSome hopen ha hpark⟩

/-- A batch that asks for a message and the status of a server that never answers. -/
theorem expired_receive_returns_silent :
    let answer : Answer := .response ⟨[], [[1]], .clean (.ok none)⟩
    let ops : ZendHashTable := [Op.recvMessage.flag, Op.recvStatusOnClient.flag]
    let ls : List Label := [.begin ops, .php, .php, .driver .proceed, .driver .ready,
      .tick (I64.ofInt 200)]
    let ls' : List Label := [.driver .deadline, .driver .proceed, .driver .proceed, .php, .php,
      .driver .proceed, .select .trailers]
    ∃ s t, Run (pgraph (Sys.step Tonic.ascii answer)) (.server answer (I64.ofInt 100)) ls s ∧
      Run (Such (pgraph (Sys.step Tonic.ascii answer)) fun _ l ↦ l.isLocal = true) s ls' t ∧
      ls'.length ≤ 46 ∧ t.php = .idle ∧ ∃ r, t.world.log = s.world.log ++ [.returned ops r] :=
  have hrun := Run.of_foldlM rfl
  have hrun' := Run.of_foldlM_such rfl
  ⟨_, _, hrun, hrun', (expired_receive_returns (Sys.server_initial _ _) hrun rfl rfl (by decide)
    (by decide) hrun').imp_right fun h ↦ h fun l hl ↦ by
      cases l with
      | php => rfl
      | select arm => cases arm <;> rfl
      | driver a => cases a <;> rfl
      | _ => cases hl⟩

end GrpcPhp
