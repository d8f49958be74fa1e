import GrpcPhp.Lib.Potential
import GrpcPhp.Stream.Delivery

/-!
# Flow control

Both queues are bounded, and a party that finds its queue full waits.  So however far PHP
and the server are apart, little is in memory: at most four requests wait for the transport,
and at most thirty-two items for PHP, with one more message in the hands of the task.

What was put into the request queue is what the transport has taken followed by what is still in
the queue, in order, and by what was in it when it was dropped.  What PHP has not taken of the
response is the rest of it.
-/

namespace GrpcPhp

open Lib Php

variable {T : Tonic} {answer : Answer}

namespace Sys

variable {s s' : Sys} {start : I64} {l : Label}

/-! ## Requests -/

/-- What the transport takes from the request queue in a step. -/
def pulled (s : Sys) : Label → List Bytes
  | .pull => s.requests.take 1
  | _ => []

@[simp] theorem requests_afterSend (s : Sys) (j : Batch) :
    (s.afterSend j).requests = s.requests := by
  unfold afterSend
  dsimp only
  split <;> rfl

@[simp] theorem wire_complete (s : Sys) (j : Batch) (r : BatchResult) :
    (s.complete j r).world.wire = s.world.wire := by
  simp [complete]

@[simp] theorem wire_afterSend (s : Sys) (j : Batch) :
    (s.afterSend j).world.wire = s.world.wire := by
  unfold afterSend
  dsimp only
  split
  · rfl
  · simp

/-- The PHP thread puts a message into an open queue that has room and onto the wire, or
neither. -/
theorem Advances.requests (ha : s.Advances T s') :
    (s'.requests = s.requests ∧ s'.world.wire = s.world.wire)
      ∨ ∃ m, s.holder ≠ .nobody ∧ s.requests.length < REQUEST_BUFFER
        ∧ s'.requests = s.requests ++ [m] ∧ s'.world.wire = s.world.wire ++ [m] := by
  cases ha with
  | sendFailed => exact .inl ⟨rfl, by simp [Sys.raise]⟩
  | @sent j m _ hc hq => exact .inr ⟨m, by simpa [requestsClosed] using hc, hq, by simp, by simp⟩
  | noDrain => exact .inl ⟨rfl, by simp [Sys.gotStatus]⟩
  | trailers => exact .inl ⟨rfl, by simp [Sys.gotStatus]⟩
  | _ => exact .inl ⟨rfl, rfl⟩

/-- The start of a batch sends nothing. -/
theorem Enters.requests {ops : ZendHashTable} (he : s.Enters ops s') :
    s'.requests = s.requests ∧ s'.world.wire = s.world.wire := by
  cases he with
  | refused | noSender => exact ⟨rfl, by simp [Sys.raise]⟩
  | empty => exact ⟨rfl, by simp⟩
  | sends => exact ⟨rfl, by simp⟩
  | passes => exact ⟨by simp, by simp⟩

/-- A queue that was dropped stays dropped. -/
theorem holderAfter_nobody (h : s.holder = .nobody) (a : Act) (task : Task) :
    s.holderAfter a task = .nobody := by
  rw [holderAfter, h]

/-- The state of the request queue, when the transport has taken `taken` and `lost` was in the
queue when it was dropped. -/
structure Requests (s : Sys) (taken lost : List Bytes) : Prop where
  fifo : s.world.wire = taken ++ s.requests ++ lost
  bounded : s.requests.length + lost.length ≤ REQUEST_BUFFER
  kept : s.holder ≠ .nobody → lost = []
  dropped : s.holder = .nobody → s.requests = []

namespace Requests

variable {taken lost : List Bytes}

/-- A step that touches neither the queue nor the wire. -/
theorem same (h : s.Requests taken lost) (hw : s'.world.wire = s.world.wire)
    (hq : s'.requests = s.requests) (hh : s'.holder = s.holder) : s'.Requests taken lost := by
  refine ⟨?_, ?_, ?_, ?_⟩
  · rw [hw, hq, h.fifo]
  · rw [hq]
    exact h.bounded
  · rw [hh]
    exact h.kept
  · rw [hh, hq]
    exact h.dropped

/-- Dropping the queue loses what is in it. -/
theorem drop (h : s.Requests taken lost) (hw : s'.world.wire = s.world.wire)
    (hq : s'.requests = []) (hh : s'.holder = .nobody) :
    s'.Requests taken (s.requests ++ lost) := by
  refine ⟨?_, ?_, fun hne ↦ absurd hh hne, fun _ ↦ hq⟩
  · rw [hw, hq, h.fifo, List.append_nil, List.append_assoc]
  · rw [hq, List.length_append, List.length_nil, Nat.zero_add]
    exact h.bounded

/-- The PHP thread and its own queue. -/
theorem advances (h : s.Requests taken lost) (ha : s.Advances T s') :
    s'.Requests taken lost := by
  have hholder := ha.frame.holder
  obtain ⟨hq, hw⟩ | ⟨m, hopen, hlen, hq, hw⟩ := ha.requests
  · exact h.same hw hq hholder
  · obtain rfl := h.kept hopen
    refine ⟨?_, ?_, fun _ ↦ rfl, fun hd ↦ absurd (hholder.symm.trans hd) hopen⟩
    · rw [hw, hq, h.fifo, List.append_nil, List.append_nil, List.append_assoc]
    · rw [hq, List.length_append, List.length_singleton]
      exact hlen

/-- The task hands the queue on, or drops it. -/
theorem driver (h : s.Requests taken lost) (answer : Answer) (a : Act) (task : Task) :
    ∃ lost', (s.afterTask answer a task).Requests taken lost' := by
  by_cases hh : s.holderAfter a task = .nobody
  · have hdrop : (s.afterTask answer a task).Requests taken (s.requests ++ lost) :=
      h.drop rfl (if_pos hh) hh
    exact ⟨_, hdrop⟩
  · have hopen : s.holder ≠ .nobody := fun h ↦ hh (holderAfter_nobody h a task)
    have hq : (s.afterTask answer a task).requests = s.requests := if_neg hh
    refine ⟨lost, ?_, ?_, fun _ ↦ h.kept hopen, fun hd ↦ absurd hd hh⟩
    · rw [hq]
      exact h.fifo
    · rw [hq]
      exact h.bounded

theorem moves (h : s.Requests taken lost) (hm : s.Moves T answer l s') :
    ∃ lost', s'.Requests (taken ++ s.pulled l) lost' := by
  cases hm with
  | begins _ he =>
      obtain ⟨hq, hw⟩ := he.requests
      exact ⟨lost, by simpa [pulled] using h.same hw hq he.frame.holder⟩
  | php ha => exact ⟨lost, by simpa [pulled] using h.advances ha⟩
  | selects _ ha => exact ⟨lost, by simpa [pulled] using h.advances ha⟩
  | driver => simpa [pulled] using h.driver answer _ _
  | @pulls m q hq hh =>
      have hfifo := h.fifo
      have hb := h.bounded
      rw [hq] at hfifo hb
      refine ⟨lost, ?_, ?_, h.kept, fun hd ↦ by simp [hh] at hd⟩
      · simpa [pulled, hq] using hfifo
      · rw [List.length_cons] at hb
        dsimp only
        omega
  | abandons =>
      simp only [pulled, List.append_nil]
      exact ⟨_, h.drop rfl rfl rfl⟩
  | turns | drops | ticks =>
      simp only [pulled, List.append_nil]
      exact ⟨lost, h.same rfl rfl rfl⟩

end Requests

/-- Once the queue was dropped, nothing is put into it or taken from it. -/
theorem Moves.of_dropped (hm : s.Moves T answer l s') (hh : s.holder = .nobody) :
    s'.holder = .nobody ∧ s'.world.wire = s.world.wire ∧ s.pulled l = [] := by
  have advances (ha : s.Advances T s') : s'.holder = .nobody ∧ s'.world.wire = s.world.wire := by
    refine ⟨ha.frame.holder.trans hh, ?_⟩
    obtain ⟨-, hw⟩ | ⟨m, hopen, -⟩ := ha.requests
    · exact hw
    · exact absurd hh hopen
  cases hm with
  | begins _ he => exact ⟨he.frame.holder.trans hh, he.requests.2, rfl⟩
  | php ha => exact ⟨(advances ha).1, (advances ha).2, rfl⟩
  | selects _ ha => exact ⟨(advances ha).1, (advances ha).2, rfl⟩
  | driver => exact ⟨holderAfter_nobody hh _ _, rfl, rfl⟩
  | pulls _ hh' | abandons hh' => cases hh.symm.trans hh'
  | turns | drops | ticks => exact ⟨hh, rfl, rfl⟩

/-- How the queue came to be where it is. -/
structure Handed (ls : List Label) (s : Sys) : Prop where
  early : s.holder = .task → .driver .ready ∉ ls
  dropped : s.holder = .nobody → .abandon ∈ ls ∨ s.closed = true ∧ .driver .ready ∉ ls

namespace Handed

variable {ls : List Label}

/-- Any step but one of the task's, unless the transport drops the queue. -/
theorem same (h : s.Handed ls) (hl : ∀ a, l ≠ .driver a) (hh : s'.holder = s.holder)
    (hc : s'.closed = s.closed) : s'.Handed (ls ++ [l]) := by
  have hready : Label.driver .ready ∉ ls → Label.driver .ready ∉ ls ++ [l] := by
    simpa using fun hn ↦ ⟨hn, (hl .ready).symm⟩
  refine ⟨fun ht ↦ hready (h.early (hh.symm.trans ht)), fun hn ↦ ?_⟩
  rw [hc]
  exact (h.dropped (hh.symm.trans hn)).imp (List.mem_append_left _) fun h ↦ ⟨h.1, hready h.2⟩

/-- The task. -/
theorem driver (h : s.Handed ls) {a : Act} {task : Task} (hs : s.task.Steps T answer s.ctx a task) :
    (s.afterTask answer a task).Handed (ls ++ [.driver a]) := by
  have hrun : s.closed = false := hs.running
  cases hh : s.holder with
  | task =>
      have hready : a ≠ .ready → Label.driver .ready ∉ ls ++ [.driver a] := by
        simpa using fun hne ↦ ⟨h.early hh, Ne.symm hne⟩
      refine ⟨fun ht ↦ hready ?_, fun hn ↦ .inr ?_⟩
      · rintro rfl
        simp [holderAfter, hh] at ht
      · have ha : a ≠ .ready := by
          rintro rfl
          simp [holderAfter, hh] at hn
        refine ⟨?_, hready ha⟩
        by_contra hc
        have hopen : task.driver.hasReturned = false := Bool.eq_false_iff.mpr hc
        simp [holderAfter, hh, ha, hopen] at hn
  | transport =>
      refine ⟨fun ht ↦ ?_, fun hn ↦ ?_⟩
      · simp [holderAfter, hh] at ht
      · simp [holderAfter, hh] at hn
  | nobody =>
      refine ⟨fun ht ↦ ?_, fun _ ↦ .inl ?_⟩
      · simp [holderAfter, hh] at ht
      · obtain hmem | ⟨hc, -⟩ := h.dropped hh
        · exact List.mem_append_left _ hmem
        · cases hrun.symm.trans hc

theorem moves (h : s.Handed ls) (hm : s.Moves T answer l s') : s'.Handed (ls ++ [l]) := by
  have frame (hl : ∀ a, l ≠ .driver a) (hf : s.Frame s') : s'.Handed (ls ++ [l]) := by
    obtain ⟨q, -, ht⟩ := hf.task
    exact h.same hl hf.holder (by rw [closed, closed, ht])
  cases hm with
  | begins _ he => exact frame nofun he.frame
  | php ha => exact frame nofun ha.frame
  | selects _ ha => exact frame nofun ha.frame
  | driver hs => exact h.driver hs
  | abandons => exact ⟨nofun, fun _ ↦ .inl (by simp)⟩
  | turns | drops | pulls | ticks => exact h.same nofun rfl rfl

end Handed

end Sys

/-- **What becomes of the messages PHP has sent.**  In every run they are, in order, those the
transport has taken, those in the queue, and those that were lost with it; the last two are
together at most four.  Messages are lost only when the request stream is dropped: by the
transport, or by a task that returns without having made the call.  From then on none is taken,
and none is accepted. -/
theorem requests_of_run {s₀ s : Sys} {ls : List Label} {taken : List Bytes}
    (h₀ : Sys.Initial answer s₀)
    (h : Run (Emitting (pgraph (Sys.step T answer)) Sys.pulled) (s₀, []) ls (s, taken)) :
    ∃ lost, s.world.wire = taken ++ s.requests ++ lost
      ∧ s.requests.length + lost.length ≤ REQUEST_BUFFER
      ∧ (lost ≠ [] → s.requestsClosed = true)
      ∧ (s.requestsClosed = true → s.requests = []
        ∧ (.abandon ∈ ls ∨ s.closed = true ∧ .driver .ready ∉ ls)
        ∧ ∀ ls' s' taken', Run (Emitting (pgraph (Sys.step T answer)) Sys.pulled) (s, taken) ls'
          (s', taken') → s'.world.wire = s.world.wire ∧ taken' = taken) := by
  have hqueue : ∃ lost, s.Requests taken lost := by
    refine h.state_invariant (I := fun p ↦ ∃ lost, p.1.Requests p.2 lost) ?_ ?_
    · cases h₀ with | spawned => exact ⟨[], rfl, Nat.zero_le _, fun _ ↦ rfl, nofun⟩
    · rintro ⟨t, ms⟩ l ⟨u, ms'⟩ ⟨lost, hr⟩ ⟨hs, rfl⟩
      exact hr.moves (Sys.step_moves hs)
  have hhanded : s.Handed ls := by
    refine h.invariant (I := fun ls p ↦ p.1.Handed ls) ?_ ?_
    · cases h₀ with | spawned => exact ⟨nofun, nofun⟩
    · rintro ls ⟨t, ms⟩ l ⟨u, ms'⟩ hr ⟨hs, rfl⟩
      exact hr.moves (Sys.step_moves hs)
  obtain ⟨lost, hr⟩ := hqueue
  refine ⟨lost, hr.fifo, hr.bounded, fun hne ↦ ?_, fun hc ↦ ?_⟩
  · by_contra hc
    exact hne (hr.kept (by simpa [Sys.requestsClosed] using hc))
  · have hh : s.holder = .nobody := of_decide_eq_true hc
    refine ⟨hr.dropped hh, hhanded.dropped hh, fun ls' s' taken' h' ↦ ?_⟩
    refine (h'.state_invariant (I := fun p ↦ p.1.holder = .nobody
      ∧ p.1.world.wire = s.world.wire ∧ p.2 = taken) ⟨hh, rfl, rfl⟩ ?_).2
    rintro ⟨t, ms⟩ l ⟨u, ms'⟩ ⟨ht, hwire, hms⟩ ⟨hs, rfl⟩
    obtain ⟨hu, hwire', hpulled⟩ := (Sys.step_moves hs).of_dropped ht
    refine ⟨hu, hwire'.trans hwire, ?_⟩
    rw [hpulled, List.append_nil]
    exact hms

/-- Three writes, of which the transport has taken the first when it drops the stream: the
other two are lost. -/
theorem requests_of_run_abandoned :
    let answer : Answer := .response ⟨[], [], .clean (.ok none)⟩
    let ls : List Label := [.php, .begin [messageOp [2]], .php, .begin [messageOp [3]], .php,
      .driver .proceed, .driver .ready, .pull, .abandon]
    ∃ s taken lost, Run (Emitting (pgraph (Sys.step Tonic.ascii answer)) Sys.pulled)
        (.bidi answer I64.max, []) ls (s, taken) ∧
      (s.world.wire = [[1], [2], [3]] ∧ s.requestsClosed = true) ∧
      s.world.wire = taken ++ s.requests ++ lost ∧ s.requests.length + lost.length ≤ REQUEST_BUFFER
      ∧ s.requests = [] := by
  intro answer ls
  obtain ⟨s, hrun, hs⟩ := Run.exists_of_any (Sys.step Tonic.ascii answer) (.bidi answer I64.max) ls
    (fun s ↦ s.world.wire = [[1], [2], [3]] ∧ s.requestsClosed = true) (by decide)
  obtain ⟨taken, hrun⟩ := hrun.exists_emitting []
  obtain ⟨lost, hfifo, hbound, -, hdropped⟩ := requests_of_run (Sys.bidi_initial _ _) hrun
  have hs := of_decide_eq_true hs
  exact ⟨s, taken, lost, hrun, hs, hfifo, hbound, (hdropped hs.2).1⟩

/-! ## Responses -/

namespace Task

variable {t t' : Task} {a : Act} {ctx : Ctx}

/-- The task waits for room. -/
theorem Steps.queue_le (hs : t.Steps T answer ctx a t')
    (h : t.queue.length ≤ STREAM_MSG_BUFFER) : t'.queue.length ≤ STREAM_MSG_BUFFER := by
  cases hs with
  | forwarded _ _ hq | ended _ _ hq =>
      rw [List.length_append, List.length_singleton]
      exact hq
  | _ => exact h

/-- The task holds at most one message. -/
theorem held_length_le (d : Driver) : d.held.length ≤ 1 := by
  cases d with
  | forwarding => exact Nat.le_refl _
  | _ => exact Nat.zero_le _

/-- What was read from the transport and not taken by PHP fits the queue, but for one message. -/
theorem backlog_length_le (h : t.queue.length ≤ STREAM_MSG_BUFFER) :
    t.backlog.length ≤ t.unread.length + (STREAM_MSG_BUFFER + 1) := by
  have hq := (List.length_filterMap_le payload t.queue).trans h
  have hd := held_length_le t.driver
  simp only [backlog, List.length_append]
  omega

end Task

namespace Sys

variable {s s' : Sys} {start : I64} {l : Label}

/-- The PHP thread makes a step inside a batch only. -/
theorem Advances.isBusy (ha : s.Advances T s') : s.php.isBusy = true := by
  cases ha with
  | trailers hp => obtain hp | hp := hp <;> rw [hp] <;> rfl
  | _ hp => rw [hp]; rfl

/-- The state of the response. -/
structure Responses (answer : Answer) (s : Sys) : Prop where
  bounded : s.task.queue.length ≤ STREAM_MSG_BUFFER
  left : s.isGone = false → s.task.backlog <:+ answer.messages

/-- The PHP thread takes from the front of the queue. -/
theorem Responses.frame (h : s.Responses answer) (hg : s.isGone = false) (hf : s.Frame s') :
    s'.Responses answer := by
  obtain ⟨q, hq, ht⟩ := hf.task
  have hback : s'.task.backlog <:+ s.task.backlog := by
    obtain ⟨p, hp⟩ := hq.filterMap payload
    exact ⟨p, by simp only [Task.backlog, ht, ← hp, List.append_assoc]⟩
  refine ⟨?_, fun _ ↦ hback.trans (h.left hg)⟩
  rw [ht]
  exact hq.length_le.trans h.bounded

theorem Responses.moves (h : s.Responses answer) (hm : s.Moves T answer l s') :
    s'.Responses answer := by
  cases hm with
  | begins hp he => exact h.frame (isGone_of_idle hp) he.frame
  | php ha => exact h.frame (isGone_of_isBusy ha.isBusy) ha.frame
  | selects _ ha => exact h.frame (isGone_of_isBusy ha.isBusy) ha.frame
  | driver hs =>
      refine ⟨hs.queue_le h.bounded, fun hg ↦ ?_⟩
      rw [afterTask_task, hs.backlog hg]
      exact h.left hg
  | drops => exact ⟨h.bounded, nofun⟩
  | turns | pulls | abandons | ticks => exact ⟨h.bounded, h.left⟩

/-- The state of the response, in every run. -/
theorem responses_of_run {s₀ : Sys} {ls : List Label} (h₀ : Initial answer s₀)
    (h : Run (pgraph (step T answer)) s₀ ls s) : s.Responses answer := by
  refine h.state_invariant ?_ fun _ _ _ hr hs ↦ hr.moves (step_moves hs)
  cases h₀ with | spawned => exact ⟨Nat.zero_le _, fun _ ↦ List.suffix_rfl⟩

end Sys

/-- **The response is read ahead by at most 33 messages.**  In every state of every run, of what
PHP has not taken of the response all but 33 messages are still with the transport; and until it
drops the call, what it has not taken is the rest of the response. -/
theorem readAhead_of_run {s₀ s : Sys} {ls : List Label} (h₀ : Sys.Initial answer s₀)
    (h : Run (pgraph (Sys.step T answer)) s₀ ls s) :
    (s.isGone = false → s.task.backlog <:+ answer.messages)
      ∧ s.task.backlog.length ≤ s.task.unread.length + (STREAM_MSG_BUFFER + 1) := by
  have hr := Sys.responses_of_run h₀ h
  exact ⟨hr.left, Task.backlog_length_le hr.bounded⟩

/-- A server that sends 40 messages to a PHP thread that does not read: the task is parked with
the thirty-third, and seven are left to the transport. -/
theorem readAhead_of_run_parked :
    let answer : Answer := .response ⟨[], List.replicate 40 [1], .clean (.ok none)⟩
    let ls : List Label := [.driver .proceed, .driver .ready, .driver .headers, .driver .proceed]
      ++ (List.replicate 32 [.driver .message, .driver .proceed]).flatten ++ [.driver .message]
    ∃ s, Run (pgraph (Sys.step Tonic.ascii answer)) (.server answer I64.max) ls s ∧
      (s.task.unread.length = 7 ∧ (s.step Tonic.ascii answer (.driver .proceed)).isSome = false) ∧
      (s.isGone = false → s.task.backlog <:+ answer.messages) ∧
      s.task.backlog.length ≤ s.task.unread.length + (STREAM_MSG_BUFFER + 1) := by
  intro answer ls
  obtain ⟨s, hrun, hs⟩ := Run.exists_of_any (Sys.step Tonic.ascii answer)
    (.server answer I64.max) ls
    (fun s ↦ s.task.unread.length = 7
      ∧ (s.step Tonic.ascii answer (.driver .proceed)).isSome = false) (by decide)
  exact ⟨s, hrun, of_decide_eq_true hs, readAhead_of_run (Sys.server_initial _ _) hrun⟩

end GrpcPhp
