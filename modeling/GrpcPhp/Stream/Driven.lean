import GrpcPhp.Stream.Background

/-!
# Does background progress matter?

By default a PHP thread has a runtime of its own, and drives it only from inside `block_on`.  This
polls what PHP asks for first, and returns at once if it is there: nothing else has moved.  Only if
it is not there does the runtime turn to its tasks, until PHP takes what it waits for.  The other
mode of `runtime.rs` has workers that move the tasks at any time, which is what the system of
`GrpcPhp/Stream/System.lean` allows.

`Driven` is that system without background progress: the task and the transport move only while PHP
waits for something that was not there; time passes everywhere.  The thread is taken to be busy with
this stream alone, since whatever else waits on the runtime drives this one as well: another call,
`getConnectivityState`, `watchConnectivityState`, `getPeer` and `sleepUntil`.

`driven_of_run` says what PHP sees of the difference.  Whatever it has been given with background
progress, by the same calls, it can be given without, but for one thing: that a write is refused
because the request stream is gone.  A thread that only writes has its messages accepted then, until
the queue is full and it has to wait (`driven_write_accepted`).  And PHP does not depend on
background progress to get on with a batch that only receives (`driven_receive_returns`).

The argument puts off what happens in the background until PHP waits.  What PHP finds without
waiting is the same then, because the background only adds to it (`GrpcPhp/Stream/Background.lean`).
What it does not find, although it was there with background progress, it waits for, and then what
was put off happens.
-/

namespace GrpcPhp

open Lib Php

variable {T : Tonic} {answer : Answer}

/-! ## The system without background progress -/

/-- PHP waits: it is inside a batch, and what it has come to is not there. -/
def Sys.pending (T : Tonic) (s : Sys) : Bool :=
  s.php.isBusy && (s.phpStep T).isNone && (s.select T .trailers).isNone
    && (s.select T .message).isNone

/-- The system without background progress. -/
structure Driven where
  sys : Sys
  /-- PHP was found waiting, and has not gone on yet. -/
  driving : Bool := false

namespace Driven

/-- The runtime runs its tasks. -/
def drives (T : Tonic) (d : Driven) : Bool := d.driving || d.sys.pending T

/-- One step. -/
def step (T : Tonic) (answer : Answer) (d : Driven) (l : Label) : Option Driven :=
  if l.isBackground && !d.drives T then none
  else (d.sys.step T answer l).map fun s ↦ ⟨s, l.isOutside && d.drives T⟩

variable {d d' : Driven} {s s' : Sys} {l : Label} {ls : List Label}

theorem step_eq_some : d.step T answer l = some d' ↔
    (l.isBackground = true → d.drives T = true)
      ∧ ∃ s, d.sys.step T answer l = some s ∧ d' = ⟨s, l.isOutside && d.drives T⟩ := by
  unfold step
  cases l.isBackground <;> cases d.drives T <;> simp [eq_comm]

/-- The steps are among those of the system. -/
theorem sys_of_run (h : Run (pgraph (step T answer)) d ls d') :
    Run (pgraph (Sys.step T answer)) d.sys ls d'.sys := by
  refine (h.map (f := Driven.sys) (I := fun _ ↦ True) trivial fun _ _ _ _ hs ↦ ⟨trivial, ?_⟩).2
  obtain ⟨-, s, hsys, rfl⟩ := step_eq_some.mp hs
  exact hsys

/-- What PHP does by itself. -/
theorem step_php {b : Bool} (h : s.step T answer l = some s') (hl : l.isOutside = false) :
    pgraph (step T answer) ⟨s, b⟩ l ⟨s', false⟩ := by
  refine step_eq_some.mpr ⟨fun hb ↦ ?_, s', h, by rw [hl]; rfl⟩
  cases (Label.isBackground_of_isOutside hl).symm.trans hb

/-- Time passes. -/
theorem step_tick {now : I64} (hnow : s.now.val ≤ now.val) (hp : s.pending T = false) :
    pgraph (step T answer) ⟨s, false⟩ (.tick now) ⟨{ s with now }, false⟩ :=
  step_eq_some.mpr ⟨nofun, _, if_pos hnow, by rw [drives, hp]; rfl⟩

/-- **While PHP waits, nothing is held back.** -/
theorem run_of_outer (hd : d.drives T = true) (h : Run (Sys.Outer T answer) d.sys ls s) :
    ∃ b, Run (pgraph (step T answer)) d ls ⟨s, b⟩ := by
  suffices ∃ b, Run (pgraph (step T answer)) d ls ⟨s, b⟩ ∧ (⟨s, b⟩ : Driven).drives T = true from
    this.imp fun _ ↦ And.left
  induction h with
  | nil => exact ⟨d.driving, .nil, hd⟩
  | snoc _ hs ih =>
      obtain ⟨b, hrun, hb⟩ := ih
      refine ⟨true, hrun.snoc (step_eq_some.mpr ⟨fun _ ↦ hb, _, hs.2, ?_⟩), rfl⟩
      rw [hs.1, hb]
      rfl

end Driven

/-! ## The statements of PHP -/

namespace Sys

variable {s s' d d' p : Sys} {l : Label} {ls : List Label} {start : I64} {j : Batch}
  {r : BatchResult}

theorem afterSend_graft (s p : Sys) (j : Batch) :
    (s.graft p).afterSend j = s.graft (p.afterSend j) := by
  unfold afterSend
  dsimp only
  split <;> rfl

theorem begin_graft (s p : Sys) (ops : ZendHashTable) :
    (s.graft p).begin ops = s.graft (p.begin ops) := by
  have hcall : (s.graft p).world.call = p.world.call := rfl
  have hstream : (s.graft p).stream = p.stream := rfl
  unfold begin
  rw [hcall]
  cases admission p.world.call ops with
  | error e => rfl
  | ok b =>
      cases b with
      | none => rfl
      | some b =>
          dsimp only
          cases b.sendMessage with
          | none => exact afterSend_graft s { p with world := p.world.mapCall (·.accept b) } _
          | some m =>
              dsimp only
              rw [hstream]
              split <;> rfl

/-- The clock matters only for an error in place of a message. -/
theorem messageStage_now_eq {deadlineUsec now now' : I64} {item : Option Item} (b : BatchOps)
    (x : BatchResult × ActiveStream) (h : ∀ status, item ≠ some (.error status)) :
    messageStage T deadlineUsec now item b x = messageStage T deadlineUsec now' item b x := by
  have hrecv : x.2.recvMessage T deadlineUsec now item
      = x.2.recvMessage T deadlineUsec now' item := by
    unfold ActiveStream.recvMessage
    cases x.2.driven with
    | false => rfl
    | true =>
        cases item with
        | none => rfl
        | some i =>
            cases i with
            | error status => exact absurd rfl (h status)
            | ok m => cases m <;> rfl
  rw [messageStage, messageStage, hrecv]

theorem gotMessage_graft (s p : Sys) (j : Batch) (r : BatchResult) {item : Option Item}
    (h : (∀ status, item ≠ some (.error status)) ∨ s.now = p.now) (q q' : List Item) :
    (s.graft p).gotMessage T j r item q = (s.leave q).graft (p.gotMessage T j r item q') := by
  have hstage : messageStage T p.world.call.deadlineUsec s.now item j.parsed (r, p.stream)
      = messageStage T p.world.call.deadlineUsec p.now item j.parsed (r, p.stream) := by
    rcases h with h | h
    · exact messageStage_now_eq _ _ h
    · rw [h]
  unfold gotMessage
  rw [show messageStage T (s.graft p).world.call.deadlineUsec (s.graft p).now item j.parsed
    (r, (s.graft p).stream) = _ from hstage]
  rfl

/-- The background sees nothing of what follows a send. -/
theorem follows_afterSend (s : Sys) (j : Batch) (hg : s.isGone = false) :
    s.Follows (s.afterSend j) := by
  have hgone : (s.afterSend j).isGone = false := by
    rcases s.afterSend_php j with hp | hp <;> simp [isGone, hp]
  refine ⟨?_, ?_, ?_, hgone.trans hg.symm⟩ <;> unfold afterSend <;> dsimp only <;> split
  all_goals first | rfl | exact id

/-- Nor of how a batch begins. -/
theorem Enters.follows {ops : ZendHashTable} (h : s.Enters ops s') (hp : s.php = .idle) :
    s.Follows s' := by
  have hg := isGone_of_idle hp
  cases h with
  | refused => exact ⟨rfl, rfl, id, hg.symm⟩
  | empty => exact ⟨rfl, rfl, id, rfl⟩
  | noSender => exact ⟨rfl, rfl, id, hg.symm⟩
  | sends => exact ⟨rfl, rfl, id, hg.symm⟩
  | @passes b =>
      obtain ⟨hd, hs, hc, hg'⟩ :=
        follows_afterSend { s with world := s.world.mapCall (·.accept b) } ⟨ops, b⟩ hg
      exact ⟨hd, hs, hc, hg'⟩

/-- What PHP has been told stays in the log. -/
theorem Moves.log_isPrefix (h : s.Moves T answer l s') : s.world.log <+: s'.world.log := by
  have hafter (p : Sys) (j : Batch) : p.world.log <+: (p.afterSend j).world.log := by
    unfold afterSend
    dsimp only
    split
    · exact List.prefix_rfl
    · exact List.prefix_append _ _
  have advances (h : s.Advances T s') : s.world.log <+: s'.world.log := by
    cases h with
    | sendFailed | noDrain | trailers => exact List.prefix_append _ _
    | @sent j m =>
        exact (List.prefix_append _ _).trans (hafter { s with
          requests := s.requests ++ [m], world := s.world.emit (.message m) } j)
    | _ => exact List.prefix_rfl
  cases h with
  | begins _ he =>
      cases he with
      | refused | empty | noSender => exact List.prefix_append _ _
      | sends => exact List.prefix_rfl
      | @passes b => exact hafter { s with world := s.world.mapCall (·.accept b) } _
  | php ha => exact advances ha
  | selects _ ha => exact advances ha
  | turns | drops | driver | pulls | abandons | ticks => exact List.prefix_rfl

/-- The wait for room. -/
theorem phpStep_sending {m : Bytes} (hp : s.php = .sending j m) :
    s.phpStep T = if s.requestsClosed then some (s.raise (.default "stream send channel closed"))
      else (Queue.send REQUEST_BUFFER s.requests m).map fun q ↦
        { s with requests := q, world := s.world.emit (.message m) }.afterSend j := by
  obtain ⟨world, stream, php, task, requests, holder, now⟩ := s
  obtain rfl : php = .sending j m := hp
  rfl

/-- The statement before the headers. -/
theorem phpStep_headers (hp : s.php = .headers j r) :
    s.phpStep T = if j.parsed.recvInitialMetadata && s.stream.awaitsHeaders then
        (Oneshot.await s.closed s.task.headers).map (s.gotHeaders T j r)
      else some (s.gotHeaders T j r none) := by
  obtain ⟨world, stream, php, task, requests, holder, now⟩ := s
  obtain rfl : php = .headers j r := hp
  rfl

/-- The statement before the message. -/
theorem phpStep_message (hp : s.php = .message j r) :
    s.phpStep T = if j.parsed.recvMessage && s.stream.cachedTrailers.isNone then
        match Queue.recv s.closed s.task.queue with
        | some (answer, q) => some (s.gotMessage T j r answer q)
        | none => some { s with php := .waiting j r }
      else some (s.gotMessage T j r none s.task.queue) := by
  obtain ⟨world, stream, php, task, requests, holder, now⟩ := s
  obtain rfl : php = .message j r := hp
  rfl

/-- The wait for a message. -/
theorem phpStep_waiting (hp : s.php = .waiting j r) :
    s.phpStep T
      = (Queue.recv s.closed s.task.queue).map fun p ↦ s.gotMessage T j r p.1 p.2 := by
  obtain ⟨world, stream, php, task, requests, holder, now⟩ := s
  obtain rfl : php = .waiting j r := hp
  rfl

/-- The statement before the status. -/
theorem phpStep_status (hp : s.php = .status j r) :
    s.phpStep T
      = if j.parsed.recvStatus && s.stream.cachedTrailers.isNone && s.stream.trailersRx then
          some { s with php := .draining j r }
        else some (s.gotStatus T j r none) := by
  obtain ⟨world, stream, php, task, requests, holder, now⟩ := s
  obtain rfl : php = .status j r := hp
  rfl

/-- The wait for the trailers. -/
theorem phpStep_trailing (hp : s.php = .trailing j r) :
    s.phpStep T = (Oneshot.await s.closed s.task.trailers).map (s.gotStatus T j r) := by
  obtain ⟨world, stream, php, task, requests, holder, now⟩ := s
  obtain rfl : php = .trailing j r := hp
  rfl

/-- The arm of the trailers. -/
theorem select_trailers (hp : s.php = .draining j r) :
    s.select T .trailers = (Oneshot.await s.closed s.task.trailers).map (s.gotStatus T j r) := by
  obtain ⟨world, stream, php, task, requests, holder, now⟩ := s
  obtain rfl : php = .draining j r := hp
  rfl

/-- After the arm of the messages. -/
def discarded (s : Sys) (j : Batch) (r : BatchResult) (item : Option Item) (q : List Item) : Sys :=
  match item with
  | some (.ok (some _)) => s.leave q
  | _ => { s.leave q with php := .trailing j r }

/-- Anything but a message ends the loop. -/
theorem discarded_of_not_message {i : Item} {q : List Item} (hi : ¬ ∃ m, i = .ok (some m)) :
    s.discarded j r (some i) q = { s.leave q with php := .trailing j r } := by
  unfold discarded
  split
  · next m hm => exact absurd ⟨m, Option.some.inj hm⟩ hi
  · rfl

/-- The arm of the messages. -/
theorem select_message (hp : s.php = .draining j r) :
    s.select T .message
      = (Queue.recv s.closed s.task.queue).map fun p ↦ s.discarded j r p.1 p.2 := by
  obtain ⟨world, stream, php, task, requests, holder, now⟩ := s
  obtain rfl : php = .draining j r := hp
  rfl

/-- Outside the drain loop, PHP waits when its statement does. -/
theorem pending_of_phpStep (hb : s.php.isBusy = true) (hp : ∀ j r, s.php ≠ .draining j r) :
    s.pending T = (s.phpStep T).isNone := by
  have hselect (arm : Arm) : s.select T arm = none := by
    by_contra hsome
    obtain ⟨s', hs⟩ := Option.ne_none_iff_exists'.mp hsome
    obtain ⟨⟨j, r, hp'⟩, -⟩ := select_advances hs
    exact hp j r hp'
  rw [pending, hb, hselect, hselect]
  simp

/-! ## Putting off the background -/

/-- PHP is done with the call: it has dropped it, or it has been given the status. -/
def Over (s : Sys) : Prop := s.php = .gone ∨ s.php = .idle ∧ s.world.call.finished = true

/-- How the state `d` of a run without background progress stands to that of one with it. -/
inductive Trails (T : Tonic) (answer : Answer) (d : Sys) : Sys → Prop
  | /-- Something was put off. -/
    behind {ls : List Label} {s : Sys} (h : Run (Outer T answer) d ls s) : Trails T answer d s
  | /-- What happens in the background does not matter any more. -/
    done {s : Sys} (ho : d.Over) (hs : s.graft d = s) : Trails T answer d s

/-- PHP's side is the same. -/
theorem Trails.graft_eq (h : d.Trails T answer s) : s.graft d = s := by
  cases h with
  | behind h => exact graft_of_run h
  | done _ hs => exact hs

/-- Being done with the call is a matter of PHP's side. -/
theorem over_of_graft (hs : s.graft d = s) : s.Over ↔ d.Over := by
  rw [← hs]
  rfl

/-- The conclusion of a step: without background progress there are steps with the same calls,
to a state that stands to the one reached as before. -/
def Catches (T : Tonic) (answer : Answer) (d : Sys) (l : Label) (s : Sys) : Prop :=
  ∃ ks d', Run (pgraph (Driven.step T answer)) ⟨d, false⟩ ks ⟨d', false⟩
    ∧ ks.filter Label.isCall = [l].filter Label.isCall ∧ d'.Trails T answer s

/-- A step that PHP makes at once, with what was put off put off again. -/
theorem Catches.of_step (hstep : d.step T answer l = some d') (hl : l.isOutside = false)
    (h : Run (Outer T answer) d' ls s) : Catches T answer d l s :=
  ⟨[l], d', .single (Driven.step_php hstep hl), rfl, .behind h⟩

/-- A step that depends on PHP's side alone. -/
theorem Catches.of_graft (h : Run (Outer T answer) d ls s) (hl : l.isOutside = false)
    (hstep : d.step T answer l = some d') (hf : d.Follows d') (hd : d.graft d' = d') :
    Catches T answer d l (s.graft d') := by
  have hrun := run_graft h hf
  rw [hd] at hrun
  exact .of_step hstep hl hrun

/-- Steps before the one in question that are no calls. -/
theorem Catches.after {ks : List Label}
    (h : Run (pgraph (Driven.step T answer)) ⟨d, false⟩ ks ⟨d', false⟩)
    (hks : ks.filter Label.isCall = []) (hc : Catches T answer d' l s) :
    Catches T answer d l s := by
  obtain ⟨ks', d'', hrun, hks', htrails⟩ := hc
  exact ⟨ks ++ ks', d'', h.append hrun, by rw [List.filter_append, hks, hks', List.nil_append],
    htrails⟩

/-- When PHP is done with the call, only its side matters. -/
theorem Catches.of_over (h : Catches T answer d l s) (ho : s.Over) (hs : s'.graft s = s') :
    Catches T answer d l s' := by
  obtain ⟨ks, d', hrun, hks, htrails⟩ := h
  exact ⟨ks, d', hrun, hks,
    .done ((over_of_graft htrails.graft_eq).mp ho) (graft_trans htrails.graft_eq hs)⟩

/-- **What was put off happens when PHP waits**, and then PHP goes on. -/
theorem catches_of_pending (h : Run (Outer T answer) d ls s) (hp : d.pending T = true)
    (hl : l.isOutside = false) (hs : s.step T answer l = some s') : Catches T answer d l s' := by
  obtain ⟨b, hrun⟩ := Driven.run_of_outer (d := ⟨d, false⟩) hp h
  refine ⟨ls ++ [l], s', hrun.snoc (Driven.step_php hs hl), ?_, .behind .nil⟩
  rw [List.filter_append, filter_isCall_of_run h, List.nil_append]

/-! ## The steps of PHP -/

/-- PHP sends a message.  With room in the queue it does so at once; otherwise it waits. -/
theorem catches_sending {m : Bytes} (h : Run (Outer T answer) d ls s)
    (hp : d.php = .sending j m) (hs : s.step T answer .php = some s')
    (hsend : .default "stream send channel closed" ∉ s'.world.raises) :
    Catches T answer d .php s' := by
  have hside := graft_of_run h
  have hps : s.php = .sending j m := by rw [← hside]; exact hp
  have hopen : s.requestsClosed = false := by
    by_contra hclosed
    rw [step, phpStep_sending hps, if_pos (by simpa using hclosed)] at hs
    cases hs
    simp [raise] at hsend
  obtain ⟨hrun, hholder⟩ := run_push h (by simpa [requestsClosed] using hopen) m
  have hd : d.requestsClosed = false := by simpa [requestsClosed] using hholder
  by_cases hroom : d.requests.length < REQUEST_BUFFER
  · -- the message goes behind those that are there
    let sent : Sys := { d with requests := d.requests ++ [m], world := d.world.emit (.message m) }
    have hstep : d.step T answer .php = some (sent.afterSend j) := by
      rw [step, phpStep_sending hp, hd, Queue.send, if_pos hroom]
      rfl
    have hs' : s' = (s.push m).graft (sent.afterSend j) := by
      rw [step, phpStep_sending hps, hopen] at hs
      obtain ⟨q, hq, rfl⟩ := Option.map_eq_some_iff.mp hs
      obtain ⟨-, rfl⟩ := Queue.send_eq_some.mp hq
      rw [← afterSend_graft]
      exact congrArg (afterSend · j) (congrArg (fun s : Sys ↦ { s with
        requests := s.requests ++ [m], world := s.world.emit (.message m) }) hside.symm)
    have hg : d.isGone = false := by simp [isGone, hp]
    obtain ⟨hdead, hshared, hcancel, hgone⟩ := sent.follows_afterSend j hg
    have hfollows : (d.push m).Follows (sent.afterSend j) := ⟨hdead, hshared, hcancel, hgone⟩
    have hgraft := run_graft hrun hfollows
    rw [← afterSend_graft] at hgraft
    rw [hs']
    exact .of_step hstep rfl hgraft
  · refine catches_of_pending h ?_ rfl hs
    rw [pending_of_phpStep (by rw [hp]; rfl) (by simp [hp]), phpStep_sending hp, hd, Queue.send,
      if_neg hroom]
    rfl

/-- PHP is about to take a message from the queue. -/
def Takes (j : Batch) (r : BatchResult) (s : Sys) : Prop :=
  (s.php = .message j r ∧ (j.parsed.recvMessage && s.stream.cachedTrailers.isNone) = true)
    ∨ s.php = .waiting j r

/-- It does so if there is one. -/
theorem Takes.phpStep {item : Option Item} {q : List Item} (h : s.Takes j r)
    (hr : Queue.recv s.closed s.task.queue = some (item, q)) :
    s.phpStep T = some (s.gotMessage T j r item q) := by
  rcases h with ⟨hp, hm⟩ | hp
  · rw [phpStep_message hp, if_pos hm, hr]
  · rw [phpStep_waiting hp, hr]
    rfl

theorem Takes.isBusy (h : s.Takes j r) : s.php.isBusy = true := by
  rcases h with ⟨hp, -⟩ | hp <;> rw [hp] <;> rfl

theorem Takes.of_graft (h : d.Takes j r) (hs : s.graft d = s) : s.Takes j r := by
  rw [← hs]
  exact h

/-- PHP takes a message, an end or an error that is there: by the same clock, or by another if it
is no error. -/
theorem catches_item (h : Run (Outer T answer) d ls s) (ht : d.Takes j r) {item : Option Item}
    {q : List Item} (hr : Queue.recv d.closed d.task.queue = some (item, q))
    (hi : (∀ status, item ≠ some (.error status)) ∨ s.now = d.now)
    (hs : s.step T answer .php = some s') : Catches T answer d .php s' := by
  have hside := graft_of_run h
  obtain ⟨q', hr', hrun⟩ := run_pop h hr
  rw [step, (ht.of_graft hside).phpStep hr'] at hs
  cases hs
  have hgone : (d.gotMessage T j r item q).isGone = (d.leave q).isGone :=
    (isGone_of_isBusy ht.isBusy).symm
  have hgraft := run_graft hrun (p := d.gotMessage T j r item q) (.of_call rfl hgone)
  rw [← gotMessage_graft s d j r hi q' q, hside] at hgraft
  exact .of_step (ht.phpStep hr) rfl hgraft

/-- An item that is no error, because the task has not returned. -/
theorem Coherent.ne_error {item : Option Item} {q : List Item} (h : d.Coherent T answer start)
    (hg : d.isGone = false) (hc : d.closed = false)
    (hr : Queue.recv d.closed d.task.queue = some (item, q)) (status : Status) :
    item ≠ some (.error status) := by
  rintro rfl
  obtain ⟨m, hm, -⟩ | ⟨-, -, -, hq | ⟨c, hsent, hitem, -⟩⟩ := h.recv_cases hg hr
  · cases hm
  · simp [hq, hc, Queue.recv] at hr
  · cases c with
    | notReady status' =>
        obtain ⟨-, hreturned⟩ := (h.task hg).unready_of_sent hsent
        rw [closed, hreturned] at hc
        cases hc
    | _ => cases hitem

/-- **PHP takes a message that is there.** -/
theorem catches_recv (hcoherent : d.Coherent T answer start) (h : Run (Outer T answer) d ls s)
    (ht : d.Takes j r) {item : Option Item} {q : List Item}
    (hr : Queue.recv d.closed d.task.queue = some (item, q))
    (hs : s.step T answer .php = some s') : Catches T answer d .php s' := by
  cases hc : d.closed with
  | false =>
      exact catches_item h ht hr
        (.inl (hcoherent.ne_error (isGone_of_isBusy ht.isBusy) hc hr)) hs
  | true =>
      -- the clock goes first, because an error in the queue is reported by it
      have hpending : d.pending T = false := by
        have hsome := ht.phpStep (T := T) hr
        unfold pending
        rw [hsome]
        simp
      have htick : pgraph (Driven.step T answer) ⟨d, false⟩ (.tick s.now)
          ⟨{ d with now := s.now }, false⟩ := Driven.step_tick (of_run_closed h hc).1 hpending
      exact .after (.single htick) rfl
        (catches_item (d := { d with now := s.now }) (run_now h hc s.now) ht hr (.inr rfl) hs)

/-- PHP takes a message, or waits for one. -/
theorem catches_takes (hcoherent : d.Coherent T answer start) (h : Run (Outer T answer) d ls s)
    (ht : d.Takes j r) (hs : s.step T answer .php = some s') : Catches T answer d .php s' := by
  cases hr : Queue.recv d.closed d.task.queue with
  | some p => exact catches_recv hcoherent h ht hr hs
  | none =>
      have hside := graft_of_run h
      have hwaits {d s : Sys} (h : Run (Outer T answer) d ls s) (hp : d.php = .waiting j r)
          (hr : Queue.recv d.closed d.task.queue = none) (hs : s.step T answer .php = some s') :
          Catches T answer d .php s' := by
        refine catches_of_pending h ?_ rfl hs
        rw [pending_of_phpStep (by rw [hp]; rfl) (by simp [hp]), phpStep_waiting hp, hr]
        rfl
      rcases ht with ⟨hp, hm⟩ | hp
      · -- `try_recv` finds nothing, and PHP goes on to wait
        have hstep : d.step T answer .php = some { d with php := .waiting j r } := by
          rw [step, phpStep_message hp, if_pos hm, hr]
        have hrun : Run (Outer T answer) { d with php := .waiting j r } ls
            { s with php := .waiting j r } := by
          have hrun := run_graft h (p := { d with php := .waiting j r })
            (.of_call rfl (by simp [isGone, hp]))
          rw [← hside]
          exact hrun
        have hwaiting : Run (pgraph (Driven.step T answer)) ⟨d, false⟩ [.php]
            ⟨{ d with php := .waiting j r }, false⟩ := .single (Driven.step_php hstep rfl)
        have hts : s.Takes j r := .of_graft (.inl ⟨hp, hm⟩) hside
        cases hrs : Queue.recv s.closed s.task.queue with
        | none =>
            have hps : s.php = .message j r := by rw [← hside]; exact hp
            have hms : (j.parsed.recvMessage && s.stream.cachedTrailers.isNone) = true := by
              rw [← hside]
              exact hm
            rw [step, phpStep_message hps, if_pos hms, hrs] at hs
            cases hs
            exact .of_step hstep rfl hrun
        | some p =>
            refine .after hwaiting rfl (hwaits hrun rfl hr ?_)
            rw [step, hts.phpStep hrs] at hs
            cases hs
            rw [step, phpStep_waiting (j := j) (r := r) rfl]
            exact congrArg (Option.map _) hrs
      · exact hwaits h hp hr hs

/-- PHP before the headers. -/
theorem catches_headers (hcoherent : d.Coherent T answer start) (h : Run (Outer T answer) d ls s)
    (hp : d.php = .headers j r) (hs : s.step T answer .php = some s') :
    Catches T answer d .php s' := by
  have hside := graft_of_run h
  have hps : s.php = .headers j r := by rw [← hside]; exact hp
  have hstream : s.stream = d.stream := (congrArg Sys.stream hside).symm
  have hg : d.isGone = false := by simp [isGone, hp]
  have hgot (o : Option MetadataMap) (hd : d.step T answer .php = some (d.gotHeaders T j r o)) :
      Catches T answer d .php (s.gotHeaders T j r o) := by
    rw [← hside]
    exact .of_graft h rfl hd (.of_call rfl hg.symm) rfl
  rw [step, phpStep_headers hps, hstream] at hs
  cases ha : j.parsed.recvInitialMetadata && d.stream.awaitsHeaders with
  | false =>
      rw [ha] at hs
      cases hs
      exact hgot none (by rw [step, phpStep_headers hp, ha]; rfl)
  | true =>
      rw [ha, if_pos rfl] at hs
      cases ho : Oneshot.await d.closed d.task.headers with
      | some o =>
          rw [headers_of_run h hcoherent hg ho] at hs
          cases hs
          exact hgot o (by rw [step, phpStep_headers hp, ha, if_pos rfl, ho]; rfl)
      | none =>
          refine catches_of_pending h ?_ rfl ?_
          · rw [pending_of_phpStep (by rw [hp]; rfl) (by simp [hp]), phpStep_headers hp, ha,
              if_pos rfl, ho]
            rfl
          · rw [step, phpStep_headers hps, hstream, ha, if_pos rfl]
            exact hs

/-- PHP before the message. -/
theorem catches_message (hcoherent : d.Coherent T answer start) (h : Run (Outer T answer) d ls s)
    (hp : d.php = .message j r) (hs : s.step T answer .php = some s') :
    Catches T answer d .php s' := by
  cases hm : j.parsed.recvMessage && d.stream.cachedTrailers.isNone with
  | true => exact catches_takes hcoherent h (.inl ⟨hp, hm⟩) hs
  | false =>
      have hside := graft_of_run h
      have hd : d.step T answer .php = some (d.gotMessage T j r none d.task.queue) := by
        rw [step, phpStep_message hp, hm]
        rfl
      have hms : (j.parsed.recvMessage && s.stream.cachedTrailers.isNone) = false := by
        rw [← hside]
        exact hm
      rw [step, phpStep_message (by rw [← hside]; exact hp), hms] at hs
      cases hs
      have hnone (status : Status) : (none : Option Item) ≠ some (.error status) :=
        fun h ↦ by cases h
      have hgraft := gotMessage_graft (T := T) s d j r (.inl hnone) s.task.queue d.task.queue
      rw [hside] at hgraft
      rw [hgraft]
      exact .of_graft h rfl hd (.of_call rfl (by simp [isGone, gotMessage, hp])) rfl

/-- PHP is given the status, or none. -/
theorem catches_gotStatus (h : Run (Outer T answer) d ls s) (hl : l.isOutside = false)
    (hg : d.isGone = false) {o : Option StreamTrailers}
    (hd : d.step T answer l = some (d.gotStatus T j r o)) :
    Catches T answer d l (s.gotStatus T j r o) := by
  rw [← graft_of_run h]
  exact .of_graft h hl hd ⟨rfl, rfl, id, hg.symm⟩ rfl

/-- PHP before the status. -/
theorem catches_status (h : Run (Outer T answer) d ls s) (hp : d.php = .status j r)
    (hs : s.step T answer .php = some s') : Catches T answer d .php s' := by
  have hside := graft_of_run h
  have hg : d.isGone = false := by simp [isGone, hp]
  have hps : s.php = .status j r := by rw [← hside]; exact hp
  rw [step, phpStep_status hps, show s.stream = d.stream from (congrArg Sys.stream hside).symm]
    at hs
  cases hc : j.parsed.recvStatus && d.stream.cachedTrailers.isNone && d.stream.trailersRx with
  | true =>
      have hd : d.step T answer .php = some { d with php := .draining j r } := by
        rw [step, phpStep_status hp, hc]
        rfl
      rw [hc] at hs
      cases hs
      rw [← hside]
      exact .of_graft h rfl hd (.of_call rfl hg.symm) rfl
  | false =>
      rw [hc] at hs
      cases hs
      exact catches_gotStatus h rfl hg (by rw [step, phpStep_status hp, hc]; rfl)

/-- PHP after the drain loop. -/
theorem catches_trailing (hcoherent : d.Coherent T answer start) (h : Run (Outer T answer) d ls s)
    (hp : d.php = .trailing j r) (hs : s.step T answer .php = some s') :
    Catches T answer d .php s' := by
  have hside := graft_of_run h
  have hg : d.isGone = false := by simp [isGone, hp]
  have hps : s.php = .trailing j r := by rw [← hside]; exact hp
  cases ho : Oneshot.await d.closed d.task.trailers with
  | some o =>
      have hos := trailers_of_run h (hcoherent.closed_of_trailers hg ho) ho
      rw [step, phpStep_trailing hps, hos] at hs
      cases hs
      exact catches_gotStatus h rfl hg (by rw [step, phpStep_trailing hp, ho]; rfl)
  | none =>
      refine catches_of_pending h ?_ rfl hs
      rw [pending_of_phpStep (by rw [hp]; rfl) (by simp [hp]), phpStep_trailing hp, ho]
      rfl

/-- PHP waits in the drain loop when there is neither an item nor the trailers. -/
theorem pending_of_draining (hp : s.php = .draining j r)
    (ho : Oneshot.await s.closed s.task.trailers = none)
    (hr : Queue.recv s.closed s.task.queue = none) : s.pending T = true := by
  have hphp : s.phpStep T = none := by rw [phpStep, hp]
  rw [pending, hphp, select_trailers hp, select_message hp, ho, hr, hp]
  rfl

/-- An item in the drain loop is the same, with what was put off put off still. -/
theorem run_discarded (h : Run (Outer T answer) d ls s) (hp : d.php = .draining j r)
    {item : Option Item} {q : List Item}
    (hr : Queue.recv d.closed d.task.queue = some (item, q)) :
    ∃ q', Queue.recv s.closed s.task.queue = some (item, q')
      ∧ Run (Outer T answer) (d.discarded j r item q) ls (s.discarded j r item q') := by
  obtain ⟨q', hr', hrun⟩ := run_pop h hr
  refine ⟨q', hr', ?_⟩
  unfold discarded
  split
  · exact hrun
  · have hgone : d.isGone = false := by simp [isGone, hp]
    have htrailing := run_graft hrun (p := { d with php := .trailing j r })
      (.of_call rfl hgone.symm)
    rw [← graft_of_run h]
    exact htrailing

/-- PHP takes an item in the drain loop. -/
theorem catches_discard (hcoherent : d.Coherent T answer start) (h : Run (Outer T answer) d ls s)
    (hp : d.php = .draining j r) (hs : s.step T answer (.select .message) = some s') :
    Catches T answer d (.select .message) s' := by
  have hps : s.php = .draining j r := by rw [← graft_of_run h]; exact hp
  cases hr : Queue.recv d.closed d.task.queue with
  | none =>
      refine catches_of_pending h (pending_of_draining hp ?_ hr) rfl hs
      -- the trailers would be those of a task that has returned
      by_contra ho
      obtain ⟨o, ho⟩ := Option.ne_none_iff_exists'.mp ho
      have hclosed := hcoherent.closed_of_trailers (by simp [isGone, hp]) ho
      cases (Queue.recv_eq_none.mp hr).2.symm.trans hclosed
  | some x =>
      obtain ⟨q', hr', hrun⟩ := run_discarded h hp hr
      rw [step, select_message hps, hr'] at hs
      cases hs
      exact .of_step (by rw [step, select_message hp, hr]; rfl) rfl hrun

/-- PHP is given the status in the drain loop.  Without background progress it may first have to
throw away what is in the queue, but then it is done with the call. -/
theorem catches_drain (hcoherent : d.Coherent T answer start) (h : Run (Outer T answer) d ls s)
    (hp : d.php = .draining j r) (hs : s.step T answer (.select .trailers) = some s') :
    Catches T answer d (.select .trailers) s' := by
  obtain ⟨-, -, hdrains⟩ := hcoherent.drains (.inl hp)
  have hover (t : Sys) (o : Option StreamTrailers) : (t.gotStatus T j r o).Over :=
    .inr ⟨rfl, by simp [gotStatus, complete, hdrains.asked]⟩
  clear hdrains
  -- by induction on what is left to throw away
  induction hq : d.task.queue generalizing d s s' with
  | nil =>
      cases ho : Oneshot.await d.closed d.task.trailers with
      | some o =>
          have hg : d.isGone = false := by simp [isGone, hp]
          have hos := trailers_of_run h (hcoherent.closed_of_trailers hg ho) ho
          rw [step, select_trailers (by rw [← graft_of_run h]; exact hp), hos] at hs
          cases hs
          exact catches_gotStatus h rfl hg (by rw [step, select_trailers hp, ho]; rfl)
      | none =>
          have hr := Queue.recv_eq_none.mpr ⟨hq, (Oneshot.await_eq_none.mp ho).2⟩
          exact catches_of_pending h (pending_of_draining hp ho hr) rfl hs
  | cons i q ih =>
      have hr : Queue.recv d.closed d.task.queue = some (some i, q) := by rw [hq, Queue.recv_cons]
      obtain ⟨q', -, hrun⟩ := run_discarded h hp hr
      have hstep : d.step T answer (.select .message) = some (d.discarded j r (some i) q) := by
        rw [step, select_message hp, hr]
        rfl
      have hcoherent' := hcoherent.moves (step_moves hstep)
      have hps : s.php = .draining j r := by rw [← graft_of_run h]; exact hp
      rw [step, select_trailers hps] at hs
      obtain ⟨o, hos, rfl⟩ := Option.map_eq_some_iff.mp hs
      -- what is given then is the status, whatever has been thrown away
      suffices hcatches : Catches T answer (d.discarded j r (some i) q) (.select .trailers)
          ((s.leave q').gotStatus T j r o) from
        (Catches.after (.single (Driven.step_php hstep rfl)) rfl hcatches).of_over (hover _ _) rfl
      by_cases hm : ∃ m, i = .ok (some m)
      · obtain ⟨m, rfl⟩ := hm
        have hlast : (s.leave q').step T answer (.select .trailers)
            = some ((s.leave q').gotStatus T j r o) := by
          rw [step, select_trailers (s := s.leave q') hps]
          exact congrArg (Option.map _) hos
        exact ih hcoherent' hrun hp hlast rfl
      · rw [discarded_of_not_message hm] at hrun hcoherent' ⊢
        rw [discarded_of_not_message hm] at hrun
        have hlast : ({ s.leave q' with php := .trailing j r } : Sys).step T answer .php
            = some ((s.leave q').gotStatus T j r o) := by
          rw [step, phpStep_trailing (j := j) (r := r) rfl]
          exact congrArg (Option.map _) hos
        exact catches_trailing hcoherent' hrun rfl hlast

/-- PHP begins a batch. -/
theorem catches_begin {ops : ZendHashTable} (h : Run (Outer T answer) d ls s) (hp : d.php = .idle)
    (hs : s.step T answer (.begin ops) = some s') : Catches T answer d (.begin ops) s' := by
  have hside := graft_of_run h
  have hps : s.php = .idle := by rw [← hside]; exact hp
  have hd : d.step T answer (.begin ops) = some (d.begin ops) := by rw [step, hp]
  rw [step, hps] at hs
  cases hs
  rw [← hside, begin_graft]
  exact .of_graft h rfl hd ((d.begin_enters ops).follows hp) (begin_graft d d ops).symm

/-- Another method of the call. -/
theorem catches_aside {a : Aside} (h : Run (Outer T answer) d ls s) (hp : d.php = .idle) :
    Catches T answer d (.aside a) { s with world := s.world.mapCall a.update } := by
  have hd : d.step T answer (.aside a) = some { d with world := d.world.mapCall a.update } := by
    rw [step, hp]
  rw [← graft_of_run h]
  refine .of_graft h rfl hd ⟨a.update_deadlineUsec _, ?_, ?_, rfl⟩ rfl
  · cases a <;> rfl
  · cases a with
    | cancel => exact fun _ ↦ rfl
    | closeChannel => exact id
    | setCredentials plugin => exact id

/-- PHP drops the call, and is done with it. -/
theorem catches_drop (h : Run (Outer T answer) d ls s) (hp : d.php = .idle) :
    Catches T answer d .drop { s with php := .gone } := by
  have hd : d.step T answer .drop = some { d with php := .gone } := by rw [step, hp]
  refine ⟨[.drop], _, .single (Driven.step_php hd rfl), rfl, .done (.inl rfl) ?_⟩
  rw [← graft_of_run h]
  rfl

/-- **A step of PHP**, with something put off. -/
theorem catches_of_step (hcoherent : d.Coherent T answer start) (h : Run (Outer T answer) d ls s)
    (hl : l.isOutside = false) (hs : s.step T answer l = some s')
    (hsend : .default "stream send channel closed" ∉ s'.world.raises) :
    Catches T answer d l s' := by
  have hphp : s.php = d.php := (congrArg Sys.php (graft_of_run h)).symm
  cases l with
  | begin ops =>
      cases step_moves hs with
      | begins hp => exact catches_begin h (hphp.symm.trans hp) hs
  | aside a =>
      cases step_moves hs with
      | turns hp => exact catches_aside h (hphp.symm.trans hp)
  | drop =>
      cases step_moves hs with
      | drops hp => exact catches_drop h (hphp.symm.trans hp)
  | select arm =>
      obtain ⟨⟨j, r, hp⟩, -⟩ := select_advances hs
      cases arm with
      | message => exact catches_discard hcoherent h (hphp.symm.trans hp) hs
      | trailers => exact catches_drain hcoherent h (hphp.symm.trans hp) hs
  | php =>
      cases hp : d.php with
      | idle | gone | draining => simp [step, phpStep, hphp, hp] at hs
      | sending j m => exact catches_sending h hp hs hsend
      | headers j r => exact catches_headers hcoherent h hp hs
      | message j r => exact catches_message hcoherent h hp hs
      | waiting j r => exact catches_takes hcoherent h (.inr hp) hs
      | status j r => exact catches_status h hp hs
      | trailing j r => exact catches_trailing hcoherent h hp hs
  | driver | pull | abandon | tick => cases hl

/-- A batch of a call that is finished is refused, or has no operations. -/
theorem Enters.over_of_finished {ops : ZendHashTable} (h : s.Enters ops s') (hp : s.php = .idle)
    (hfin : s.world.call.finished = true) : s'.Over := by
  have hadmitted {b : BatchOps} (h : Admitted s.world.call ops b) : False := by
    cases h.notFinished.symm.trans hfin
  cases h with
  | refused => exact .inr ⟨rfl, hfin⟩
  | empty => exact .inr ⟨hp, hfin⟩
  | noSender h => exact (hadmitted h).elim
  | sends h => exact (hadmitted h).elim
  | passes h => exact (hadmitted h).elim

/-- **A step of PHP when it is done with the call.** -/
theorem catches_of_over (ho : d.Over) (hside : s.graft d = s) (hl : l.isOutside = false)
    (hs : s.step T answer l = some s') : Catches T answer d l s' := by
  have hphp : s.php = d.php := (congrArg Sys.php hside).symm
  have hfin (hp : s.php = .idle) : d.php = .idle ∧ d.world.call.finished = true := by
    rw [hphp] at hp
    exact ho.resolve_left (by rw [hp]; nofun)
  have hover (d' : Sys) (hd : d.step T answer l = some d') (ho' : d'.Over)
      (hs' : s' = s.graft d') : Catches T answer d l s' :=
    ⟨[l], d', .single (Driven.step_php hd hl), rfl, .done ho' (by rw [hs', graft_graft_left])⟩
  cases step_moves hs with
  | @begins ops _ hp =>
      obtain ⟨hp', hfin'⟩ := hfin hp
      refine hover (d.begin ops) (by rw [step, hp'])
        ((d.begin_enters ops).over_of_finished hp' hfin') ?_
      rw [step, hp] at hs
      cases hs
      rw [← begin_graft, hside]
  | @turns a hp =>
      obtain ⟨hp', hfin'⟩ := hfin hp
      refine hover { d with world := d.world.mapCall a.update } (by rw [step, hp'])
        (.inr ⟨hp', (a.update_finished _).trans hfin'⟩) ?_
      rw [← hside]
      rfl
  | drops hp =>
      refine hover { d with php := .gone } (by rw [step, (hfin hp).1]) (.inl rfl) ?_
      rw [← hside]
      rfl
  | php ha =>
      have hbusy := ha.isBusy
      rw [hphp] at hbusy
      rcases ho with hp | ⟨hp, -⟩ <;> rw [hp] at hbusy <;> cases hbusy
  | selects _ ha =>
      have hbusy := ha.isBusy
      rw [hphp] at hbusy
      rcases ho with hp | ⟨hp, -⟩ <;> rw [hp] at hbusy <;> cases hbusy
  | driver | pulls | abandons | ticks => cases hl

/-- **Any step**, of PHP or not. -/
theorem Trails.catches (hcoherent : d.Coherent T answer start) (h : d.Trails T answer s)
    (hs : s.step T answer l = some s')
    (hsend : .default "stream send channel closed" ∉ s'.world.raises) :
    Catches T answer d l s' := by
  cases hl : l.isOutside with
  | true =>
      have hstep : Outer T answer s l s' := ⟨hl, hs⟩
      refine ⟨[], d, .nil, (Label.filter_isCall_of_isOutside hl).symm, ?_⟩
      cases h with
      | behind h => exact .behind (h.snoc hstep)
      | done ho hside => exact .done ho (graft_trans hside hstep.graft_eq)
  | false =>
      cases h with
      | behind h => exact catches_of_step hcoherent h hl hs hsend
      | done ho hside => exact catches_of_over ho hside hl hs

end Sys

/-! ## Whole runs -/

/-- **What PHP sees of background progress.**  Take any run of a stream, with the task, the
transport and the clock moving at any time, in which no write is refused because the request
stream is gone.  There is one in which nothing but the clock moves unless PHP waits, in which PHP
makes the same calls in the same order, is at the same place with the same call, and has been given
the same results. -/
theorem driven_of_run {s₀ s : Sys} {ls : List Label} (h₀ : Sys.Initial answer s₀)
    (h : Run (pgraph (Sys.step T answer)) s₀ ls s)
    (hsend : .default "stream send channel closed" ∉ s.world.raises) :
    ∃ ks d, Run (pgraph (Driven.step T answer)) ⟨s₀, false⟩ ks d
      ∧ ks.filter Label.isCall = ls.filter Label.isCall
      ∧ d.sys.php = s.php ∧ d.sys.stream = s.stream ∧ d.sys.world.call = s.world.call
      ∧ d.sys.world.log = s.world.log := by
  have hshadow : ∃ ks d, Run (pgraph (Driven.step T answer)) ⟨s₀, false⟩ ks ⟨d, false⟩
      ∧ ks.filter Label.isCall = ls.filter Label.isCall ∧ d.Trails T answer s := by
    induction h with
    | nil => exact ⟨[], s₀, .nil, rfl, .behind .nil⟩
    | @snoc ls t u l _ hs ih =>
        have hraises {e : PhpException} (he : e ∈ t.world.raises) : e ∈ u.world.raises := by
          obtain ⟨es, hes⟩ := (Sys.step_moves hs).log_isPrefix
          rw [World.raises, World.observe, ← hes, List.flatMap_append]
          exact List.mem_append_left _ he
        obtain ⟨ks, d, hrun, hcalls, htrails⟩ := ih fun he ↦ hsend (hraises he)
        have hcoherent := Sys.coherent_of_run h₀ (Driven.sys_of_run hrun)
        obtain ⟨ks', d', hrun', hcalls', htrails'⟩ := htrails.catches hcoherent hs hsend
        refine ⟨ks ++ ks', d', hrun.append hrun', ?_, htrails'⟩
        rw [List.filter_append, List.filter_append, hcalls, hcalls']
  obtain ⟨ks, d, hrun, hcalls, htrails⟩ := hshadow
  have hside := htrails.graft_eq
  refine ⟨ks, ⟨d, false⟩, hrun, hcalls, ?_, ?_, ?_, ?_⟩ <;> rw [← hside] <;> rfl

/-- A message that was read ahead in the background, and then received. -/
theorem driven_of_run_readAhead :
    let answer : Answer := .response ⟨[], [[1]], .clean (.ok none)⟩
    ∃ ks d, Run (pgraph (Driven.step Tonic.ascii answer)) ⟨.server answer I64.max, false⟩ ks d
      ∧ ks.filter Label.isCall = [.begin [Op.recvMessage.flag]]
      ∧ d.sys.world.log = [.returned [Op.recvMessage.flag] { message := some (some [1]) }] := by
  intro answer
  have hrun : Run (pgraph (Sys.step Tonic.ascii answer)) (.server answer I64.max)
      [.driver .proceed, .driver .ready, .driver .headers, .driver .proceed, .driver .message,
        .driver .proceed, .begin [Op.recvMessage.flag], .php, .php, .php] _ := Run.of_foldlM rfl
  obtain ⟨ks, d, hdriven, hcalls, -, -, -, hlog⟩ :=
    driven_of_run (Sys.server_initial _ _) hrun (by decide)
  exact ⟨ks, d, hdriven, hcalls, hlog⟩

/-! ## Writing -/

/-- Not the start of a batch that receives. -/
def Label.onlyWrites : Label → Bool
  | .begin ops => (parseOps ops).toOption.all (!·.hasRecvOps)
  | _ => true

/-- Outside a batch, or in one that only writes. -/
def Thread.onlyWrites : Thread → Bool
  | .idle | .gone => true
  | .sending j _ => !j.parsed.hasRecvOps
  | _ => false

/-- PHP has started `n` writes at most, and never waited. -/
structure Driven.Queued (n : ℕ) (d : Driven) : Prop where
  driving : d.driving = false
  holder : d.sys.holder = .task
  php : d.sys.php.onlyWrites = true
  requests : d.sys.requests.length + d.sys.php.isSending.toNat ≤ n

namespace Driven.Queued

variable {d d' : Driven} {n : ℕ} {l : Label} {j : Batch} {m : Bytes}

/-- A write is accepted, as long as the queue has room. -/
theorem phpStep (h : d.Queued n) (hn : n ≤ REQUEST_BUFFER) (hp : d.sys.php = .sending j m) :
    d.sys.phpStep T = some ({ d.sys with
      requests := d.sys.requests ++ [m]
      world := d.sys.world.emit (.message m) }.afterSend j) := by
  have hopen : d.sys.requestsClosed = false := by simp [Sys.requestsClosed, h.holder]
  have hroom : d.sys.requests.length < REQUEST_BUFFER := by
    have := h.requests
    rw [hp, show (Thread.sending j m).isSending.toNat = 1 from rfl] at this
    omega
  rw [Sys.phpStep_sending hp, hopen, Queue.send, if_pos hroom]
  rfl

/-- So PHP does not wait. -/
theorem drives (h : d.Queued n) (hn : n ≤ REQUEST_BUFFER) : d.drives T = false := by
  rw [Driven.drives, h.driving, Bool.false_or]
  have hphp := h.php
  cases hp : d.sys.php with
  | idle | gone => rw [Sys.pending, hp]; rfl
  | sending j m => simp [Sys.pending, h.phpStep hn hp]
  | _ => rw [hp] at hphp; cases hphp

/-- After a write. -/
theorem afterSend {s : Sys} (hh : s.holder = .task) (hj : j.parsed.hasRecvOps = false)
    (hreq : s.requests.length ≤ n) : Queued n ⟨s.afterSend j, false⟩ := by
  unfold Sys.afterSend
  rw [hj]
  exact ⟨rfl, hh, rfl, hreq⟩

/-- PHP makes a write. -/
theorem advances {s : Sys} (h : d.Queued n) (hn : n ≤ REQUEST_BUFFER)
    (hs : d.sys.phpStep T = some s) : Queued n ⟨s, false⟩ := by
  have hphp := h.php
  have hreq := h.requests
  cases hp : d.sys.php with
  | sending j m =>
      rw [h.phpStep hn hp] at hs
      cases hs
      rw [hp] at hphp hreq
      refine afterSend (s := { d.sys with
        requests := d.sys.requests ++ [m]
        world := d.sys.world.emit (.message m) }) h.holder ?_ ?_
      · simpa [Thread.onlyWrites] using hphp
      · simpa [Thread.isSending] using hreq
  | idle | gone => simp [Sys.phpStep, hp] at hs
  | _ => rw [hp] at hphp; cases hphp

/-- PHP begins a batch that does not receive. -/
theorem enters {ops : ZendHashTable} {s : Sys} (h : d.Queued n)
    (hl : (Label.begin ops).onlyWrites = true) (he : d.sys.Enters ops s) :
    Queued (n + 1) ⟨s, false⟩ := by
  have hlen : d.sys.requests.length ≤ n := le_trans (Nat.le_add_right _ _) h.requests
  have hwrites {b : BatchOps} (hb : parseOps ops = .ok b) : b.hasRecvOps = false := by
    simpa [Label.onlyWrites, hb, Except.toOption] using hl
  cases he with
  | refused => exact ⟨rfl, h.holder, rfl, hlen.trans (Nat.le_succ n)⟩
  | empty => exact ⟨rfl, h.holder, h.php, h.requests.trans (Nat.le_succ n)⟩
  | noSender => exact ⟨rfl, h.holder, rfl, hlen.trans (Nat.le_succ n)⟩
  | sends hadm =>
      refine ⟨rfl, h.holder, ?_, Nat.succ_le_succ hlen⟩
      simp [Thread.onlyWrites, hwrites hadm.parsed]
  | @passes b hadm =>
      exact afterSend (s := { d.sys with world := d.sys.world.mapCall (·.accept b) }) h.holder
        (hwrites hadm.parsed) (hlen.trans (Nat.le_succ n))

/-- And nothing moves but PHP and the clock. -/
theorem step (h : d.Queued n) (hn : n ≤ REQUEST_BUFFER) (hl : l.onlyWrites = true)
    (hs : d.step T answer l = some d') : d'.Queued (n + l.isBegin.toNat) := by
  obtain ⟨hback, s, hsys, rfl⟩ := step_eq_some.mp hs
  rw [h.drives hn, Bool.and_false]
  have hback' : l.isBackground = false := by
    by_contra hb
    cases (h.drives hn).symm.trans (hback (by simpa using hb))
  cases Sys.step_moves hsys with
  | begins _ he => exact h.enters hl he
  | php => exact h.advances hn hsys
  | selects hp =>
      obtain ⟨j, r, hp⟩ := hp
      have hphp := h.php
      rw [hp] at hphp
      cases hphp
  | turns => exact ⟨rfl, h.holder, h.php, h.requests⟩
  | drops hp =>
      have hreq := h.requests
      rw [hp] at hreq
      exact ⟨rfl, h.holder, rfl, hreq⟩
  | ticks => exact ⟨rfl, h.holder, h.php, h.requests⟩
  | driver | pulls | abandons => cases hback'

end Driven.Queued

/-- **Without background progress a thread that only writes does not learn that the request stream
is gone.**  Whatever has become of the call, its first four writes are accepted. -/
theorem driven_write_accepted {s₀ : Sys} {d : Driven} {ls : List Label} {j : Batch} {m : Bytes}
    (h₀ : Sys.Initial answer s₀) (hphp : s₀.php.onlyWrites = true)
    (h : Run (Such (pgraph (Driven.step T answer)) fun _ l ↦ l.onlyWrites = true) ⟨s₀, false⟩ ls d)
    (hls : ls.countP Label.isBegin < REQUEST_BUFFER) (hp : d.sys.php = .sending j m) :
    d.sys.phpStep T = some ({ d.sys with
      requests := d.sys.requests ++ [m]
      world := d.sys.world.emit (.message m) }.afterSend j) := by
  have hstart : Driven.Queued 1 ⟨s₀, false⟩ := by
    cases h₀ with
    | spawned => exact ⟨rfl, rfl, hphp, by simpa [Sys.spawn] using Bool.toNat_le _⟩
  have hqueued := h.invariant (I := fun ls d ↦ ls.countP Label.isBegin < REQUEST_BUFFER →
    d.Queued (1 + ls.countP Label.isBegin)) (fun _ ↦ hstart) ?_
  · exact (hqueued hls).phpStep (by omega) hp
  · intro ls t l u hI hs hls
    have hcount : (ls ++ [l]).countP Label.isBegin
        = ls.countP Label.isBegin + l.isBegin.toNat := by
      cases hl : l.isBegin <;> simp [hl]
    rw [hcount] at hls ⊢
    rw [← Nat.add_assoc]
    exact (hI (by omega)).step (by omega) hs.1 hs.2

/-- With background progress the second one may be refused. -/
example : ∃ s, Run (pgraph (Sys.step Tonic.ascii (.rejected ⟨.unavailable, "", [], []⟩)))
    (.bidi (.rejected ⟨.unavailable, "", [], []⟩) I64.max) [.php, .driver .proceed, .driver .ready,
      .driver .rejected, .abandon, .begin [messageOp [2]], .php] s ∧
    .default "stream send channel closed" ∈ s.world.raises := by
  obtain ⟨s, hrun, hs⟩ := Run.exists_of_any
    (Sys.step Tonic.ascii (.rejected ⟨.unavailable, "", [], []⟩))
    (.bidi (.rejected ⟨.unavailable, "", [], []⟩) I64.max) [.php, .driver .proceed, .driver .ready,
      .driver .rejected, .abandon, .begin [messageOp [2]], .php]
    (fun s ↦ .default "stream send channel closed" ∈ s.world.raises) (by decide)
  exact ⟨s, hrun, of_decide_eq_true hs⟩

/-! ## Receiving -/

/-- A thread that is inside a batch and has no step to make waits. -/
theorem Driven.drives_of_stuck {e : Driven} (hb : e.sys.php.isBusy = true)
    (hstuck : ∀ l, l.isParty = true → e.step T answer l = none) : e.drives T = true := by
  have hphp (l : Label) (hl : l.isParty = true) (hout : l.isOutside = false) :
      e.sys.step T answer l = none := by
    refine Option.eq_none_iff_forall_ne_some.mpr fun u hu ↦ ?_
    have hstep : e.step T answer l = some _ := Driven.step_php (b := e.driving) hu hout
    cases (hstuck l hl).symm.trans hstep
  have hstep : e.sys.phpStep T = none := hphp .php rfl rfl
  have hselect (arm : Arm) : e.sys.select T arm = none := hphp (.select arm) rfl rfl
  simp [Driven.drives, Sys.pending, hb, hstep, hselect]

/-- **Without background progress a receive batch returns too.**  Take any reachable state in
which PHP is inside `build_stream_result`, and let the two parties make steps in any order, but
none of the task unless PHP waits.  They make at most three for each message that is still with
the transport and 46 more, and when there is none left to make the batch has returned. -/
theorem driven_receive_returns {s₀ : Sys} {d e : Driven} {ls ls' : List Label} {j : Batch}
    (h₀ : Sys.Initial answer s₀)
    (h : Run (pgraph (Driven.step T answer)) ⟨s₀, false⟩ ls d)
    (hr : d.sys.php.receives = true) (hj : d.sys.php.batch = some j)
    (h' : Run (Such (pgraph (Driven.step T answer)) fun _ l ↦ l.isParty = true) d ls' e) :
    ls'.length ≤ 46 + 3 * d.sys.task.unread.length ∧
      ((∀ l, l.isParty = true → e.step T answer l = none) →
        e.sys.php = .idle ∧ ∃ r, e.sys.world.log = d.sys.world.log ++ [.returned j.ops r]) := by
  have hparty : Run (Such (pgraph (Sys.step T answer)) fun _ l ↦ l.isParty = true) d.sys ls'
      e.sys := by
    refine (h'.map (f := Driven.sys) (I := fun _ ↦ True) trivial
      fun _ _ _ _ hs ↦ ⟨trivial, hs.1, ?_⟩).2
    obtain ⟨-, s, hsys, rfl⟩ := Driven.step_eq_some.mp hs.2
    exact hsys
  obtain ⟨hlen, hpursues⟩ := Sys.pursues_of_run (fun _ hl ↦ hl) hr hj hparty
  constructor
  · have := (Sys.responses_of_run h₀ (Driven.sys_of_run h)).work_le hr
    omega
  · intro hstuck
    rcases hpursues with ⟨hr', hj', hlog⟩ | hreturned
    · -- PHP is stuck, so it waits, and then nothing holds the task back
      have hbusy : e.sys.php.isBusy = true := by
        cases hp : e.sys.php <;> simp_all [Thread.receives, Thread.isBusy]
      have hdrives := Driven.drives_of_stuck hbusy hstuck
      have hc := Sys.coherent_of_run h₀ ((Driven.sys_of_run h).append hparty.of_such)
      refine Sys.Pursues.returned_of_stuck (.inl ⟨hr', hj', hlog⟩) hc fun l hl ↦ ?_
      refine Option.eq_none_iff_forall_ne_some.mpr fun u hu ↦ ?_
      have hstep := Driven.step_eq_some.mpr ⟨fun _ ↦ hdrives, u, hu, rfl⟩
      cases (hstuck l hl).symm.trans hstep
    · exact hreturned

/-- A batch that asks for the status, with a task that starts only when PHP waits for it. -/
theorem driven_receive_returns_drain :
    let answer : Answer := .response ⟨[], [[1]], .clean (.ok none)⟩
    let ask : Label := .begin [Op.recvStatusOnClient.flag]
    let ls' : List Label := [.php, .php, .php, .driver .proceed, .driver .ready, .driver .headers,
      .driver .proceed, .driver .message, .driver .proceed, .select .message, .driver .finish,
      .driver .proceed, .driver .proceed, .select .trailers]
    ∃ d e, Run (pgraph (Driven.step Tonic.ascii answer)) ⟨.server answer I64.max, false⟩ [ask] d ∧
      Run (Such (pgraph (Driven.step Tonic.ascii answer)) fun _ l ↦ l.isParty = true) d ls' e ∧
      ls'.length ≤ 46 + 3 * d.sys.task.unread.length ∧ e.sys.php = .idle ∧
      ∃ r, e.sys.world.log = d.sys.world.log ++ [.returned [Op.recvStatusOnClient.flag] r] :=
  have hrun := Run.of_foldlM rfl
  have hrun' := Run.of_foldlM_such rfl
  ⟨_, _, hrun, hrun', (driven_receive_returns (Sys.server_initial _ _) hrun rfl rfl hrun').imp_right
    fun h ↦ h fun l hl ↦ by
      cases l with
      | php => rfl
      | select arm => cases arm <;> rfl
      | driver a => cases a <;> rfl
      | _ => cases hl⟩

end GrpcPhp
