import GrpcPhp.Stream.Termination

/-!
# The background

The task, the transport and the clock move beside PHP.  The two sides touch each other only in
the queues and the oneshots, and each queue at its own end: what the background puts into the
response queue goes behind what PHP takes, and what it takes from the request queue is before what
PHP puts there.  So the steps of the two sides can be exchanged, and this file says which.

`Sys.graft` separates the two sides of the state.  A step in the background does not depend on
PHP's side, but for the token and for the receivers being there (`run_graft`); nor on the first
item of the response queue (`run_pop`); nor on the end of the request queue, as long as that is
not dropped (`run_push`).  And what PHP waits for stays there once it has come.
-/

namespace GrpcPhp

open Lib Php

variable {T : Tonic} {answer : Answer}

/-! ## Labels -/

/-- A step of the task or of the transport. -/
def Label.isBackground : Label → Bool
  | .driver _ | .pull | .abandon => true
  | .begin _ | .php | .select _ | .aside _ | .drop | .tick _ => false

/-- A step in the background, or of the clock. -/
def Label.isOutside : Label → Bool
  | .driver _ | .pull | .abandon | .tick _ => true
  | .begin _ | .php | .select _ | .aside _ | .drop => false

/-- A call of PHP. -/
def Label.isCall : Label → Bool
  | .begin _ | .aside _ | .drop => true
  | .php | .select _ | .driver _ | .pull | .abandon | .tick _ => false

/-- What is not PHP's is no call of it. -/
theorem Label.filter_isCall_of_isOutside {l : Label} (h : l.isOutside = true) :
    [l].filter Label.isCall = [] := by
  cases l <;> first | rfl | cases h

/-- What is PHP's is not in the background. -/
theorem Label.isBackground_of_isOutside {l : Label} (h : l.isOutside = false) :
    l.isBackground = false := by
  cases l <;> first | rfl | cases h

/-! ## The task -/

/-- A transition of the task is a step of it. -/
theorem Task.Steps.step_eq {ctx : Ctx} {t t' : Task} {a : Act} (hs : t.Steps T answer ctx a t') :
    t.step T answer ctx a = some t' := by
  cases hs with
  | elapsed h ht => rcases h with h | h <;> simp [Task.step, h, ht]
  | ready h ha =>
      cases answer with
      | notReady status => exact absurd rfl (ha status)
      | _ => simp [Task.step, h]
  | forwarded h hg hq => simp [Task.step, h, hg, Queue.send, hq]
  | ended h hg hq => simp [Task.step, h, hg, Queue.send, hq]
  | _ => simp [Task.step, *]

/-- The token firing takes no transition away. -/
theorem Task.Steps.of_cancelled {ctx : Ctx} {t t' : Task} {a : Act} {c : Bool}
    (hs : t.Steps T answer ctx a t') (hc : ctx.cancelled = true → c = true) :
    t.Steps T answer { ctx with cancelled := c } a t' := by
  cases hs with
  | start h => exact .start h
  | ready h ha => exact .ready h ha
  | notReady h ha => exact .notReady h ha
  | elapsed h ht => exact .elapsed h ht
  | headers h ha => exact .headers h ha
  | rejected h ha => exact .rejected h ha
  | opened h => exact .opened h
  | refused h => exact .refused h
  | message h hu => exact .message h hu
  | finish h hu ha => exact .finish h hu ha
  | cancelled h hx => exact .cancelled h (hc hx)
  | deadline h ht => exact .deadline h ht
  | forwarded h hg hq => exact .forwarded h hg hq
  | forwardFailed h hg => exact .forwardFailed h hg
  | ended h hg hq => exact .ended h hg hq
  | endFailed h hg => exact .endFailed h hg
  | delivered h => exact .delivered h

/-- Nor does taking an item from the queue. -/
theorem Task.Steps.pop {ctx : Ctx} {t t' : Task} {a : Act} {i : Item} {q : List Item}
    (hs : t.Steps T answer ctx a t') (hq : t.queue = i :: q) :
    ∃ q', t'.queue = i :: q'
      ∧ ({ t with queue := q } : Task).Steps T answer ctx a { t' with queue := q' } := by
  have hroom {n : ℕ} (h : t.queue.length < n) : q.length < n := by
    rw [hq, List.length_cons] at h
    omega
  cases hs with
  | start h => exact ⟨q, hq, .start h⟩
  | ready h ha => exact ⟨q, hq, .ready h ha⟩
  | notReady h ha => exact ⟨q, hq, .notReady h ha⟩
  | elapsed h ht => exact ⟨q, hq, .elapsed h ht⟩
  | headers h ha => exact ⟨q, hq, .headers h ha⟩
  | rejected h ha => exact ⟨q, hq, .rejected h ha⟩
  | opened h => exact ⟨q, hq, .opened h⟩
  | refused h => exact ⟨q, hq, .refused h⟩
  | message h hu => exact ⟨q, hq, .message h hu⟩
  | finish h hu ha => exact ⟨q, hq, .finish h hu ha⟩
  | cancelled h hx => exact ⟨q, hq, .cancelled h hx⟩
  | deadline h ht => exact ⟨q, hq, .deadline h ht⟩
  | @forwarded m h hg hlt =>
      refine ⟨q ++ [.ok (some m)], by rw [hq, List.cons_append], ?_⟩
      exact Task.Steps.forwarded (t := { t with queue := q }) h hg (hroom hlt)
  | forwardFailed h hg => exact ⟨q, hq, .forwardFailed h hg⟩
  | @ended c now h hg hlt =>
      refine ⟨q ++ [c.item], by rw [hq, List.cons_append], ?_⟩
      exact Task.Steps.ended (t := { t with queue := q }) h hg (hroom hlt)
  | endFailed h hg => exact ⟨q, hq, .endFailed h hg⟩
  | delivered h => exact ⟨q, hq, .delivered h⟩

namespace Sys

variable {s s' d d' p q : Sys} {l : Label} {ls : List Label}

/-! ## The two sides of the state -/

/-- The steps that are not PHP's. -/
def Outer (T : Tonic) (answer : Answer) : Sys → Label → Sys → Prop :=
  Such (pgraph (step T answer)) fun _ l ↦ l.isOutside = true

/-- The state with PHP's side as in `p`, and the rest as in `s`. -/
def graft (s p : Sys) : Sys :=
  { s with
    world := { s.world with call := p.world.call, log := p.world.log }
    stream := p.stream
    php := p.php }

theorem graft_graft_right (s p q : Sys) : s.graft (p.graft q) = s.graft q := rfl

theorem graft_graft_left (s p q : Sys) : (s.graft p).graft q = s.graft q := rfl

/-- PHP's side stays what it was. -/
theorem graft_trans (h : s.graft d = s) (h' : s'.graft s = s') : s'.graft d = s' := by
  calc s'.graft d = s'.graft (s.graft d) := (graft_graft_right s' s d).symm
    _ = s' := by rw [h, h']

/-- Of PHP's side, the background sees the deadline, the channel, the token and whether the
receivers are there: `p` has what `s` has of these. -/
structure Follows (s p : Sys) : Prop where
  deadlineUsec : p.world.call.deadlineUsec = s.world.call.deadlineUsec
  channelShared : p.world.call.channelShared = s.world.call.channelShared
  cancelled : s.world.call.cancelToken = true → p.world.call.cancelToken = true
  gone : p.isGone = s.isGone

/-- A state of PHP's side that differs in nothing the background sees. -/
theorem Follows.of_call (hc : p.world.call = s.world.call) (hg : p.isGone = s.isGone) :
    s.Follows p := by
  refine ⟨?_, ?_, fun h ↦ ?_, hg⟩ <;> rw [hc]
  exact h

/-- What the task sees of a state whose PHP side was replaced. -/
theorem ctx_graft (h : s.Follows p) :
    (s.graft p).ctx = { s.ctx with cancelled := p.world.call.cancelToken } := by
  have hgone : (s.graft p).isGone = s.isGone := h.gone
  simp only [ctx, hgone]
  exact congrArg (Ctx.mk · _ _ _) h.deadlineUsec

/-- What the task leaves does not depend on PHP's side. -/
theorem afterTask_graft (h : s.Follows p) (a : Act) (task : Task) :
    (s.graft p).afterTask answer a task = (s.afterTask answer a task).graft p := by
  have hanswered : (s.graft p).answered answer a = s.answered answer a := by
    unfold answered
    rw [show (s.graft p).world.call.channelShared = s.world.call.channelShared from
      h.channelShared]
    rfl
  unfold afterTask
  rw [hanswered]
  rfl

/-- The transport takes a message. -/
theorem step_pull {m : Bytes} {q : List Bytes} (hq : s.requests = m :: q)
    (hh : s.holder = .transport) : s.step T answer .pull = some { s with requests := q } := by
  rw [step, hq, hh]

/-- The transport drops the requests. -/
theorem step_abandon (hh : s.holder = .transport) :
    s.step T answer .abandon = some { s with holder := .nobody, requests := [] } := by
  rw [step, hh]

/-- The transitions that are not PHP's. -/
theorem Outer.moves (h : Outer T answer s l s') : s.Moves T answer l s' := step_moves h.2

/-- **A step in the background does not depend on PHP's side**, but for what `Follows` says. -/
theorem Outer.graft (h : Outer T answer s l s') (hp : s.Follows p) :
    Outer T answer (s.graft p) l (s'.graft p) := by
  refine ⟨h.1, ?_⟩
  have hl := h.1
  cases h.moves with
  | @driver a task hs =>
      have hstep : s.task.step T answer (s.graft p).ctx a = some task := by
        rw [ctx_graft hp]
        exact (hs.of_cancelled hp.cancelled).step_eq
      rw [pgraph, step, show (s.graft p).task = s.task from rfl, hstep, Option.map_some,
        afterTask_graft hp]
  | pulls hq hh => exact step_pull (s := s.graft p) hq hh
  | abandons hh => exact step_abandon (s := s.graft p) hh
  | ticks ht => exact if_pos ht
  | begins | php | selects | turns | drops => cases hl

/-- It does not touch PHP's side. -/
theorem Outer.graft_eq (h : Outer T answer s l s') : s'.graft s = s' := by
  have hl := h.1
  cases h.moves with
  | driver | pulls | abandons | ticks => rfl
  | begins | php | selects | turns | drops => cases hl

/-- A whole run in the background does not touch PHP's side. -/
theorem graft_of_run (h : Run (Outer T answer) d ls s) : s.graft d = s :=
  h.state_invariant (I := fun s ↦ s.graft d = s) rfl fun _ _ _ hI hs ↦ graft_trans hI hs.graft_eq

/-- A whole run in the background does not depend on it either. -/
theorem run_graft (h : Run (Outer T answer) d ls s) (hp : d.Follows p) :
    Run (Outer T answer) (d.graft p) ls (s.graft p) := by
  refine (h.map (f := (·.graft p)) (I := fun t ↦ t.graft d = t) rfl fun t l u hside hs ↦ ?_).2
  have hfollows : t.Follows p := by
    rw [← hside]
    exact ⟨hp.deadlineUsec, hp.channelShared, hp.cancelled, hp.gone⟩
  exact ⟨graft_trans hside hs.graft_eq, hs.graft hfollows⟩

/-- What happens in the background is no call of PHP. -/
theorem filter_isCall_of_run (h : Run (Outer T answer) d ls s) : ls.filter Label.isCall = [] := by
  induction h with
  | nil => rfl
  | snoc _ hs ih => rw [List.filter_append, ih, Label.filter_isCall_of_isOutside hs.1]; rfl

/-! ## The response queue -/

/-- The state with `q` left in the queue. -/
def leave (s : Sys) (q : List Item) : Sys := { s with task := { s.task with queue := q } }

/-- A step in the background does not depend on the first item of the queue. -/
theorem Outer.pop (h : Outer T answer s l s') {i : Item} {q : List Item}
    (hq : s.task.queue = i :: q) :
    ∃ q', s'.task.queue = i :: q' ∧ Outer T answer (s.leave q) l (s'.leave q') := by
  have hl := h.1
  cases h.moves with
  | @driver a task hs =>
      obtain ⟨q', hq', hs'⟩ := hs.pop hq
      have hstep : (s.leave q).task.step T answer (s.leave q).ctx a
          = some { task with queue := q' } := hs'.step_eq
      refine ⟨q', hq', hl, ?_⟩
      rw [pgraph, step, hstep]
      rfl
  | pulls hreq hh => exact ⟨q, hq, hl, step_pull (s := s.leave q) hreq hh⟩
  | abandons hh => exact ⟨q, hq, hl, step_abandon (s := s.leave q) hh⟩
  | ticks ht => exact ⟨q, hq, hl, if_pos ht⟩
  | begins | php | selects | turns | drops => cases hl

/-- Behind a task that has returned, the clock moves, and the requests. -/
theorem of_run_closed (h : Run (Outer T answer) d ls s) (hc : d.closed = true) :
    d.now.val ≤ s.now.val
      ∧ s = { d with now := s.now, requests := s.requests, holder := s.holder } := by
  induction h with
  | nil => exact ⟨le_rfl, rfl⟩
  | @snoc ls t u l _ hs ih =>
      obtain ⟨hnow, ht⟩ := ih
      have hclosed : t.closed = true := by rw [ht]; exact hc
      have hl := hs.1
      cases hs.moves with
      | driver hs' => exact absurd hs'.running (by simpa [closed] using hclosed)
      | @pulls m q => exact ⟨hnow, congrArg (fun s ↦ { s with requests := q }) ht⟩
      | abandons =>
          exact ⟨hnow, congrArg (fun s ↦ { s with holder := .nobody, requests := [] }) ht⟩
      | @ticks t' hle => exact ⟨hnow.trans hle, congrArg (fun s ↦ { s with now := t' }) ht⟩
      | begins | php | selects | turns | drops => cases hl

/-- The background does not read the clock behind a task that has returned. -/
theorem run_now (h : Run (Outer T answer) d ls s) (hc : d.closed = true) (now : I64) :
    Run (Outer T answer) { d with now } (ls.filter Label.isBackground) { s with now } := by
  induction h with
  | nil => exact .nil
  | @snoc ls t u l hrun hs ih =>
      have hclosed : t.closed = true := by
        rw [(of_run_closed hrun hc).2]
        exact hc
      have hl := hs.1
      rw [List.filter_append]
      cases hs.moves with
      | driver hs' => exact absurd hs'.running (by simpa [closed] using hclosed)
      | pulls hq hh => exact ih.snoc ⟨rfl, step_pull (s := { t with now }) hq hh⟩
      | abandons hh => exact ih.snoc ⟨rfl, step_abandon (s := { t with now }) hh⟩
      | ticks => simpa [Label.isBackground] using ih
      | begins | php | selects | turns | drops => cases hl

/-- **An item that can be received stays the first**, and the background does not depend on
it. -/
theorem run_pop (h : Run (Outer T answer) d ls s) {item : Option Item} {q : List Item}
    (hr : Queue.recv d.closed d.task.queue = some (item, q)) :
    ∃ q', Queue.recv s.closed s.task.queue = some (item, q')
      ∧ Run (Outer T answer) (d.leave q) ls (s.leave q') := by
  rcases Queue.recv_eq_some.mp hr with ⟨i, rfl, hq⟩ | ⟨hc, rfl, hq, rfl⟩
  · obtain ⟨q', hq', hrun⟩ := h.invariant (I := fun ls t ↦ ∃ q', t.task.queue = i :: q'
        ∧ Run (Outer T answer) (d.leave q) ls (t.leave q')) ⟨q, hq, .nil⟩
      fun _ _ _ _ ⟨_, hq', hrun⟩ hs ↦ (hs.pop hq').imp fun _ ↦ And.imp_right hrun.snoc
    exact ⟨q', by rw [hq', Queue.recv_cons], hrun⟩
  · -- the end of the queue, which is not taken from it
    have hs := (of_run_closed h hc).2
    have hleave {t : Sys} (ht : t.task.queue = []) : t.leave [] = t := by rw [leave, ← ht]
    have hqs : s.task.queue = [] := by rw [hs]; exact hq
    refine ⟨[], by rw [hs]; exact hr, ?_⟩
    rwa [hleave hq, hleave hqs]

/-! ## The request queue -/

/-- The state with a message more in the request queue. -/
def push (s : Sys) (m : Bytes) : Sys := { s with requests := s.requests ++ [m] }

/-- The background does not bring a dropped queue back. -/
theorem Outer.holder (h : Outer T answer s l s') (hh : s'.holder ≠ .nobody) :
    s.holder ≠ .nobody := fun hs ↦ hh (h.moves.of_dropped hs).1

/-- A step in the background does not depend on the last message of a queue it does not drop. -/
theorem Outer.push (h : Outer T answer s l s') (hh : s'.holder ≠ .nobody) (m : Bytes) :
    Outer T answer (s.push m) l (s'.push m) := by
  refine ⟨h.1, ?_⟩
  have hl := h.1
  cases h.moves with
  | @driver a task hs =>
      have hstep : (s.push m).task.step T answer (s.push m).ctx a = some task := hs.step_eq
      have hkeep (q : List Bytes) : (s.holderAfter a task).keep q = q := if_neg hh
      rw [pgraph, step, hstep, Option.map_some, Sys.push, Sys.push, afterTask, afterTask, hkeep]
      exact congrArg some (congrArg (fun q ↦ { s.afterTask answer a task with requests := q })
        (hkeep _))
  | @pulls m' q hq hh' =>
      exact step_pull (s := s.push m) (by rw [Sys.push, hq, List.cons_append]) hh'
  | abandons => exact absurd rfl hh
  | ticks ht => exact if_pos ht
  | begins | php | selects | turns | drops => cases hl

/-- **A run in the background does not depend on the last message** of a queue it does not
drop. -/
theorem run_push (h : Run (Outer T answer) d ls s) (hh : s.holder ≠ .nobody) (m : Bytes) :
    Run (Outer T answer) (d.push m) ls (s.push m) ∧ d.holder ≠ .nobody := by
  induction h with
  | nil => exact ⟨.nil, hh⟩
  | snoc _ hs ih =>
      obtain ⟨hrun, hd⟩ := ih (hs.holder hh)
      exact ⟨hrun.snoc (hs.push hh m), hd⟩

/-! ## The oneshots -/

variable {start : I64}

/-- The headers are sent once. -/
theorem Outer.headers (h : Outer T answer s l s') (hc : s.Coherent T answer start)
    (hg : s.isGone = false) {md : MetadataMap} (hmd : s.task.headers = some md) :
    s'.task.headers = some md := by
  have hl := h.1
  cases h.moves with
  | driver hs =>
      have hat := hc.task hg
      cases hs with
      | opened hd =>
          rw [hd] at hat
          cases hat with | opening hu => cases hu.headers.symm.trans hmd
      | refused hd =>
          rw [hd] at hat
          cases hat with | refusing hu => cases hu.headers.symm.trans hmd
      | _ => exact hmd
  | pulls | abandons | ticks => exact hmd
  | begins | php | selects | turns | drops => cases hl

/-- **Headers that have come stay.** -/
theorem headers_of_run (h : Run (Outer T answer) d ls s) (hc : d.Coherent T answer start)
    (hg : d.isGone = false) {o : Option MetadataMap}
    (ho : Oneshot.await d.closed d.task.headers = some o) :
    Oneshot.await s.closed s.task.headers = some o := by
  obtain ⟨rfl, hnone⟩ := Oneshot.await_eq_some.mp ho
  cases hmd : d.task.headers with
  | none =>
      -- the sender was dropped without a value
      rw [(of_run_closed h (hnone hmd)).2, ← hmd]
      exact ho
  | some md =>
      have hkept := h.state_invariant (I := fun t ↦ t.Coherent T answer start
        ∧ t.isGone = false ∧ t.task.headers = some md) ⟨hc, hg, hmd⟩ ?_
      · rw [hkept.2.2]
        rfl
      · rintro t l u ⟨ht, hgt, hmdt⟩ hs
        refine ⟨ht.moves hs.moves, ?_, hs.headers ht hgt hmdt⟩
        rw [← hs.graft_eq]
        exact hgt

/-- The trailers are the last thing a task does. -/
theorem Coherent.closed_of_trailers (hc : d.Coherent T answer start) (hg : d.isGone = false)
    {o : Option StreamTrailers} (ho : Oneshot.await d.closed d.task.trailers = some o) :
    d.closed = true := by
  obtain ⟨-, hr⟩ := Oneshot.await_eq_some.mp ho
  obtain ⟨c, hd, -⟩ := (hc.task hg).trailers_cases hr
  rw [closed, hd]
  rfl

/-- **Trailers that have come stay.** -/
theorem trailers_of_run (h : Run (Outer T answer) d ls s) {o : Option StreamTrailers}
    (hclosed : d.closed = true) (ho : Oneshot.await d.closed d.task.trailers = some o) :
    Oneshot.await s.closed s.task.trailers = some o := by
  rw [(of_run_closed h hclosed).2]
  exact ho

end Sys

end GrpcPhp
