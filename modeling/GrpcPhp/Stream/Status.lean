import GrpcPhp.Stream.Results

/-!
# What a status batch reports

The terminal event of the task reaches PHP in one of two ways: as the trailers, or, when
`ready()` failed, as an error in the queue.  Whatever is reported is what the terminal
event amounts to, with one exception: if nobody read the error from the queue, there is
nothing left that the drain loop could report.
-/

namespace GrpcPhp

open Lib Php

variable {T : Tonic} {answer : Answer}

namespace Sys

variable {s s' : Sys} {start : I64} {l : Label}

/-! ## Reports -/

/-- The status is what the terminal event of the task amounts to, at a reading of the clock
since the stream was started. -/
inductive Reports (T : Tonic) (answer : Answer) (start : I64) (s : Sys) : PhpStatus → Prop
  | event {c : Cause} {now : I64} (h : s.task.driver = .returned (some c)) (hof : c.Of answer)
      (hu : c.interrupts = false → s.task.unread = []) (hc : s.Clock start now) :
      Reports T answer start s
        ((c.trailers T answer.trailers s.world.call.deadlineUsec now).toPhp T)

/-- The PHP thread waits in the drain loop for the trailers of a task whose `ready()`
failed. -/
def Lost (s : Sys) : Prop :=
  s.php.isDraining = true ∧ ∃ c, s.task.driver = .returned (some c) ∧ c.isNotReady = true

/-- The status is what the terminal event amounts to, or `ready()` failed and the status
says that the task ended without one. -/
def Accounts (T : Tonic) (answer : Answer) (start : I64) (s : Sys) (st : PhpStatus) : Prop :=
  s.Reports T answer start st
    ∨ answer.isNotReady = true ∧ st = ActiveStream.terminatedUnexpectedly.toPhp T

theorem Coherent.isNotReady_of_lost (h : s.Coherent T answer start) (hl : s.Lost) :
    answer.isNotReady = true := by
  obtain ⟨hd, c, hret, hn⟩ := hl
  have hat := h.task (isGone_of_isDraining hd)
  rw [hret] at hat
  have hof : c.Of answer := by
    cases hat with
    | unready he => exact he.of
    | returned he => exact he.of
  cases c with
  | notReady status => rw [show answer = .notReady status from hof]; rfl
  | _ => cases hn

/-- What the status stage reports. -/
theorem Coherent.gotStatus_reports (h : s.Coherent T answer start) (hb : s.php.isBusy = true)
    {j : Batch} {r : BatchResult} {trailers : Option StreamTrailers} (hr : r.status = none)
    (ht : j.parsed.recvStatus = true → s.stream.cachedTrailers = none →
      trailers = s.task.trailers ∧ (s.task.trailers = none → s.closed = true)
        ∧ s.php.isDraining = true) {st : PhpStatus}
    (hst : st ∈ (s.gotStatus T j r trailers).world.statuses) :
    st ∈ s.world.statuses ∨ s.Reports T answer start st
      ∨ s.Lost ∧ st = ActiveStream.terminatedUnexpectedly.toPhp T := by
  have hg := isGone_of_isBusy hb
  simp only [Sys.gotStatus, World.statuses, observe_complete received_status,
    List.mem_append] at hst
  refine hst.imp_right fun hst ↦ ?_
  simp only [statusStage] at hst
  split at hst
  · next hasked =>
    simp only [Option.toList_some, List.mem_singleton, ActiveStream.recvStatus] at hst
    split at hst
    · next t hc =>
      obtain ⟨-, status, now, ha, hd, hclock, rfl⟩ := h.cached t hc
      subst hst
      refine .inl (.event hd ha (fun hi ↦ ?_) hclock)
      have hat := h.task hg
      rw [hd] at hat
      cases hat with
      | unready he => exact he.unread hi
      | returned he => exact he.unread hi
    · next hc =>
      obtain ⟨rfl, hclosed, hdr⟩ := ht hasked hc
      rw [if_pos (h.rx (h.unfinished hb))] at hst
      subst hst
      obtain ⟨c, hd, he, ⟨hn, ht⟩ | ⟨now, hclock, ht⟩⟩ := (h.task hg).trailers_cases hclosed
      · exact .inr ⟨⟨hdr, c, hd, hn⟩, by rw [ht]; rfl⟩
      · rw [ht]
        exact .inl (.event hd he.of he.unread hclock)
  · simp [hr] at hst

/-- The statuses reported by the PHP thread's steps. -/
theorem Coherent.advances_reports (h : s.Coherent T answer start) (ha : s.Advances T s')
    {st : PhpStatus} (hst : st ∈ s'.world.statuses) :
    st ∈ s.world.statuses ∨ s.Reports T answer start st
      ∨ s.Lost ∧ st = ActiveStream.terminatedUnexpectedly.toPhp T := by
  have hstage := h.stage
  cases ha with
  | noDrain hp hn =>
      have hb : s.php.isBusy = true := by rw [hp]; rfl
      rw [hp] at hstage
      refine h.gotStatus_reports hb hstage (fun hasked hcached ↦ ?_) hst
      simp [hasked, hcached, h.rx (h.unfinished hb)] at hn
  | trailers hp hc =>
      have hd : s.php.isDraining = true := by obtain hp | hp := hp <;> rw [hp] <;> rfl
      have hb : s.php.isBusy = true := by obtain hp | hp := hp <;> rw [hp] <;> rfl
      exact h.gotStatus_reports hb (h.drains hp).2.2.status (fun _ _ ↦ ⟨rfl, hc, hd⟩) hst
  | sendFailed => exact .inl (by simpa [observe_raise] using hst)
  | sent => exact .inl (by simpa [observe_afterSend received_status] using hst)
  | _ => exact .inl hst

/-- The statuses reported by a step. -/
theorem Coherent.moves_reports (h : s.Coherent T answer start) (hm : s.Moves T answer l s')
    {st : PhpStatus} (hst : st ∈ s'.world.statuses) :
    st ∈ s.world.statuses ∨ s.Reports T answer start st
      ∨ s.Lost ∧ st = ActiveStream.terminatedUnexpectedly.toPhp T := by
  cases hm with
  | begins _ he => exact .inl (by simpa [he.observe_eq received_status] using hst)
  | php ha => exact h.advances_reports ha hst
  | selects _ ha => exact h.advances_reports ha hst
  | _ => exact .inl hst

/-- What was reported stays what the terminal event amounts to. -/
theorem Reports.moves {st : PhpStatus} (h : s.Reports T answer start st)
    (hm : s.Moves T answer l s') : s'.Reports T answer start st := by
  cases h with
  | event hd hof hu hc =>
      have hf := hm.after (by rw [hd]; rfl)
      rw [← hf.deadlineUsec]
      exact .event (hf.driver.trans hd) hof (hf.unread ▸ hu) ⟨hc.1, hc.2.trans hf.now⟩

/-- **Every status reported is what the terminal event amounts to, or says that the task
ended without one.** -/
theorem reports_of_run {s₀ : Sys} {ls : List Label} (h₀ : Initial answer s₀)
    (h : Run (pgraph (step T answer)) s₀ ls s) :
    ∀ st ∈ s.world.statuses, s.Accounts T answer s₀.now st := by
  refine h.invariant_of_run
    (I := fun _ s ↦ ∀ st ∈ s.world.statuses, s.Accounts T answer s₀.now st) ?_ ?_
  · cases h₀ with | spawned => exact nofun
  · intro ls t l u hrun ih hs st hst
    have hc := coherent_of_run h₀ hrun
    have hm := step_moves hs
    obtain hst | hst | ⟨hl, hst⟩ := hc.moves_reports hm hst
    · exact (ih st hst).imp_left (·.moves hm)
    · exact .inl (hst.moves hm)
    · exact .inr ⟨hc.isNotReady_of_lost hl, hst⟩

end Sys

end GrpcPhp
