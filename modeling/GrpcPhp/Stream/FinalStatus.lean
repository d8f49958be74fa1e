import GrpcPhp.Stream.Delivery

/-!
# The final status

A failed `ready()` reaches PHP through the queue only.  As long as nothing is thrown away,
its status is in the queue or has been read from it, and a batch that reads it finds the
status cached.  The drain loop throws it away, and then nothing is left to report but that
the task ended unexpectedly.

So the status is the one of the terminal event as long as no batch enters the drain loop
on a call whose `ready()` failed, which is to say that a message is asked for first.

On a lazy channel it is not a refused connection that makes `ready()` fail: that fails the request.
It is the worker behind the channel being gone, as it is when a connection window that HTTP/2 does
not admit (`grpc.http2.lookahead_bytes` above 2³¹ - 1) has made it panic in an earlier call.
-/

namespace GrpcPhp

open Lib Php

variable {T : Tonic} {answer : Answer}

/-- The step is one of the PHP thread. -/
def Label.isPhp : Label → Bool
  | .php => true
  | _ => false

/-- The next statement is the status stage, and the status is asked for. -/
def Thread.asksStatus : Thread → Bool
  | .status j _ => j.parsed.recvStatus
  | _ => false

namespace Sys

variable {s s' : Sys} {start : I64} {l : Label}

/-! ## The status of a failed `ready()` -/

/-- The status of a failed `ready()` is in the queue or cached. -/
def Kept (s : Sys) : Prop := s.isGone = false → s.isDiscarding = false → ∀ status,
  s.task.driver = .returned (some (.notReady status)) →
    s.task.queue = [.error status] ∨ s.stream.cachedTrailers.isSome = true

namespace Kept

theorem same (h : s.Kept) (hg : s.isGone = false) (ht : s'.task = s.task)
    (hc : s'.stream.cachedTrailers = s.stream.cachedTrailers)
    (hd : s'.isDiscarding = false → s.isDiscarding = false) : s'.Kept := by
  intro _ hd' status hdr
  rw [ht, hc]
  exact h hg (hd hd') status (ht ▸ hdr)

/-- A batch that reads the status caches it. -/
theorem gotMessage {item : Option Item} {q : List Item} {j : Batch} {r : BatchResult}
    (h : s.Kept) (hc : s.Coherent T answer start) (hb : s.php.isBusy = true)
    (hdr : s.php.isDraining = false) (hasked : j.parsed.recvMessage = true)
    (hcached : s.stream.cachedTrailers = none)
    (hrecv : Queue.recv s.closed s.task.queue = some (item, q)) :
    (s.gotMessage T j r item q).Kept := by
  intro _ _ status hd
  have hnd : s.isDiscarding = false := by simp [isDiscarding, hdr, hc.unfinished hb]
  obtain hq | hsome := h (isGone_of_isBusy hb) hnd status hd
  · rw [hq, Queue.recv_cons] at hrecv
    cases hrecv
    refine .inr ?_
    simp [Sys.gotMessage, messageStage, ActiveStream.recvMessage, hasked, hcached, hc.driven]
  · simp [hcached] at hsome

theorem advances (h : s.Kept) (hc : s.Coherent T answer start) (ha : s.Advances T s') :
    s'.Kept := by
  have same {php : Thread} (hp : s.php = php) (hb : php.isBusy = true)
      (hd : php.isDraining = false) (ht : s'.task = s.task)
      (hcached : s'.stream.cachedTrailers = s.stream.cachedTrailers) : s'.Kept :=
    h.same (hc.not_discarding hp hb hd).1 ht hcached fun _ ↦ (hc.not_discarding hp hb hd).2
  cases ha with
  | sendFailed hp => exact same hp rfl rfl rfl rfl
  | sent hp =>
      obtain ⟨_, hst⟩ := afterSend_stream _ _
      exact same hp rfl rfl (by simp) (by rw [hst])
  | awaited hp | notAwaited hp => exact same hp rfl rfl rfl (by simp [Sys.gotHeaders])
  | received hp hb hcached hrecv =>
      exact h.gotMessage hc (by rw [hp]; rfl) (by rw [hp]; rfl) hb hcached hrecv
  | woken hp hrecv =>
      have hstage := hc.stage
      rw [hp] at hstage
      exact h.gotMessage hc (by rw [hp]; rfl) (by rw [hp]; rfl) hstage.2.1 hstage.2.2 hrecv
  | empty hp => exact same hp rfl rfl rfl rfl
  | noMessage hp => exact same hp rfl rfl rfl (by simp [Sys.gotMessage])
  | drains => intro _ hd; cases hd
  | @noDrain j r hp =>
      cases hb : j.parsed.recvStatus with
      | true => intro _ hd; simp [isDiscarding, Sys.gotStatus, Sys.complete, hb] at hd
      | false =>
          exact same hp rfl rfl rfl (by simp [Sys.gotStatus, Sys.complete, statusStage, hb])
  | trailers hp =>
      intro _ hd
      simp [isDiscarding, Sys.gotStatus, Sys.complete, (hc.drains hp).2.2.asked] at hd
  | discarded hp => intro _ hd; simp [isDiscarding, hp, Thread.isDraining] at hd
  | drained => intro _ hd; cases hd

theorem enters {ops : ZendHashTable} (h : s.Kept) (hp : s.php = .idle) (he : s.Enters ops s') :
    s'.Kept := by
  have hg := isGone_of_idle hp
  have hdis (hf : s.world.call.finished = false) : s.isDiscarding = false := by
    simp [isDiscarding, hp, Thread.isDraining, hf]
  cases he with
  | refused => exact h.same hg rfl rfl hdis
  | empty => exact h.same hg rfl rfl fun hd ↦ hd
  | noSender hadm | sends hadm => exact h.same hg rfl rfl fun _ ↦ hdis hadm.notFinished
  | passes hadm =>
      obtain ⟨_, hst⟩ := afterSend_stream _ _
      exact h.same hg (by simp) (by rw [hst]) fun _ ↦ hdis hadm.notFinished

/-- The task puts the status into an empty queue. -/
theorem driver {a : Act} {task : Task} (hc : s.Coherent T answer start)
    (hs : s.task.Steps T answer s.ctx a task) : (s.afterTask answer a task).Kept := by
  intro hg _ status hd
  have hat := hc.task hg
  cases hs with
  | @ended c now hd' =>
      rw [hd'] at hat
      cases hat with | ending _ _ _ hq =>
        cases c with
        | notReady =>
            cases hd
            exact .inl (by simp [hq rfl, Cause.item])
        | _ => cases hd
  | endFailed _ hg' => cases hg.symm.trans hg'
  | delivered hd' =>
      rw [hd'] at hat
      cases hat with | delivering _ _ _ hn =>
        cases hd
        cases hn
  | _ => cases hd

theorem moves (h : s.Kept) (hc : s.Coherent T answer start) (hm : s.Moves T answer l s') :
    s'.Kept := by
  cases hm with
  | begins hp he => exact h.enters hp he
  | php ha => exact h.advances hc ha
  | selects _ ha => exact h.advances hc ha
  | turns hp => exact h.same (isGone_of_idle hp) rfl rfl (by simp [isDiscarding])
  | drops => intro hg; cases hg
  | driver hs => exact Kept.driver hc hs
  | pulls | abandons | ticks => exact h

end Kept

/-! ## The drain loop -/

/-- The drain loop is entered only on a call whose `ready()` did not fail, or after the
task has got past its end in another way. -/
def Drained (answer : Answer) (s : Sys) : Prop := s.php.isDraining = true →
  (∀ status, answer ≠ .notReady status)
    ∨ ∃ c, s.task.driver.sent = some c ∧ c.isNotReady = false

/-- A batch that gets to its status on a call whose `ready()` failed has read a message, or
an earlier one has. -/
def Informed (answer : Answer) (s : Sys) (l : Label) : Prop :=
  answer.isNotReady = true → l.isPhp = true → s.php.asksStatus = true → s.reads ≠ []

instance (answer : Answer) (s : Sys) (l : Label) : Decidable (Informed answer s l) :=
  inferInstanceAs (Decidable (_ → _ → _ → _))

/-- Entering the drain loop. -/
theorem drained_of_informed {rest : List Bytes} {ended : Bool} {j : Batch} {r : BatchResult}
    (hc : s.Coherent T answer start) (hk : s.Kept) (hr : s.Reads answer rest ended)
    (hp : s.php = .status j r) (hcached : s.stream.cachedTrailers = none)
    (hread : ∀ status, answer = .notReady status → s.reads ≠ []) :
    (∀ status, answer ≠ .notReady status)
      ∨ ∃ c, s.task.driver.sent = some c ∧ c.isNotReady = false := by
  by_cases ha : ∃ status, answer = .notReady status
  · obtain ⟨status, rfl⟩ := ha
    obtain ⟨hg, hnd⟩ := hc.not_discarding hp rfl rfl
    -- there is no message to read, so what was read is the end
    have hnull : none ∈ s.reads := Reading.none_mem_of_nil hr.reading (hread status rfl)
    obtain ⟨hq, hpast⟩ := hr.dry hg (hr.reading.none_mem.mp hnull)
    have hat := hc.task hg
    cases hd : s.task.driver with
    | delivering c now =>
        rw [hd] at hat
        cases hat with | delivering _ _ _ hn => exact .inr ⟨c, rfl, hn⟩
    | returned o =>
        rw [hd] at hat
        cases hat with
        | @unready c _ hn =>
            cases c with
            | notReady status' => simpa [hq, hcached] using hk hg hnd status' hd
            | _ => cases hn
        | @returned c _ _ hn => exact .inr ⟨c, rfl, hn⟩
    | _ => simp [hd, Driver.isPast] at hpast
  · exact .inl fun status hs ↦ ha ⟨status, hs⟩

theorem Drained.moves {rest : List Bytes} {ended : Bool} (h : s.Drained answer)
    (hc : s.Coherent T answer start) (hk : s.Kept) (hr : s.Reads answer rest ended)
    (hi : Informed answer s l) (hm : s.Moves T answer l s') : s'.Drained answer := by
  have advances (ha : s.Advances T s') (hin : ∀ j r status, s.php = .status j r →
      answer = .notReady status → j.parsed.recvStatus = true → s.reads ≠ []) :
      s'.Drained answer := by
    intro hd
    cases ha with
    | @drains j r hp hb hcached =>
        have := drained_of_informed hc hk hr hp hcached fun status ha ↦ hin j r status hp ha hb
        exact this
    | discarded => exact h hd
    | drained hp => exact h (by rw [hp]; rfl)
    | sent => simp at hd
    | _ => cases hd
  cases hm with
  | begins hp he =>
      intro hd
      cases he with
      | passes => simp at hd
      | empty => exact h hd
      | _ => cases hd
  | php ha =>
      refine advances ha fun j r status hp ha hb ↦ hi (by rw [ha]; rfl) rfl ?_
      rw [hp]
      exact hb
  | selects hp ha =>
      obtain ⟨j, r, hp⟩ := hp
      exact advances ha fun j' r' _ hp' ↦ by simp [hp] at hp'
  | driver hs =>
      intro hd
      obtain ha | ⟨c, hsent, hn⟩ := h hd
      · exact .inl ha
      · exact .inr ⟨c, hs.sent hsent, hn⟩
  | drops => exact nofun
  | turns | pulls | abandons | ticks => exact h

end Sys

/-! ## The final status -/

/-- **The final status is that of the terminal event**, in every run in which a batch gets to
its status only after a message was asked for, should `ready()` have failed. -/
theorem status_reports_of_run {s₀ s : Sys} {ls : List Label} (h₀ : Sys.Initial answer s₀)
    (h : Run (Such (pgraph (Sys.step T answer)) (Sys.Informed answer)) s₀ ls s) :
    ∀ st ∈ s.world.statuses, s.Reports T answer s₀.now st := by
  suffices hinv : s.Drained answer ∧ s.Kept ∧ ∀ st ∈ s.world.statuses, s.Reports T answer s₀.now st
    from hinv.2.2
  refine h.invariant_of_run (I := fun _ s ↦ s.Drained answer ∧ s.Kept
    ∧ ∀ st ∈ s.world.statuses, s.Reports T answer s₀.now st) ?_ ?_
  · cases h₀ with
    | @spawned bidi call connectivity php now hphp hfin =>
        refine ⟨?_, nofun, nofun⟩
        cases php with
        | headers | idle | sending => exact nofun
        | _ => exact hphp.elim
  · rintro ls t l u hrun ⟨hdr, hk, hrep⟩ ⟨hi, hs⟩
    have hc := Sys.coherent_of_run h₀ hrun.of_such
    obtain ⟨rest, ended, hr⟩ := Sys.reads_of_run h₀ hrun.of_such
    have hm := Sys.step_moves hs
    refine ⟨hdr.moves hc hk hr hi hm, hk.moves hc hm, fun st hst ↦ ?_⟩
    obtain hst | hst | ⟨⟨hd, c, hret, hn⟩, -⟩ := hc.moves_reports hm hst
    · exact (hrep st hst).moves hm
    · exact hst.moves hm
    · -- the drain loop does not wait for a call whose `ready()` failed
      obtain ha | ⟨c', hsent, hn'⟩ := hdr hd
      · have hnr := hc.isNotReady_of_lost ⟨hd, c, hret, hn⟩
        cases answer with
        | notReady status => exact absurd rfl (ha status)
        | rejected | response => cases hnr
      · rw [hret] at hsent
        cases hsent
        cases hn.symm.trans hn'

/-- `Status::from_error` of the error with which `ready()` fails when the channel's worker is
gone. -/
def Status.transportError : Status := ⟨.unknown, "transport error", [], []⟩

/-- A batch that asks for a message and the status gets the failure. -/
theorem status_reports_of_run_unavailable :
    let answer : Answer := .notReady .transportError
    let ls : List Label := [.driver .proceed, .driver .notReady, .driver .proceed, .driver .proceed,
      .begin [Op.recvMessage.flag, Op.recvStatusOnClient.flag], .php, .php, .php]
    ∃ s, Run (Such (pgraph (Sys.step Tonic.ascii answer)) (Sys.Informed answer))
        (.server answer I64.max) ls s ∧
      s.world.statuses = [⟨[], 14, "transport error"⟩] ∧
      ∀ st ∈ s.world.statuses, s.Reports Tonic.ascii answer (I64.ofInt 1) st := by
  intro answer ls
  obtain ⟨s, hrun, hst⟩ := Run.exists_of_any_such (Sys.step Tonic.ascii answer)
    (Sys.Informed answer) (.server answer I64.max) ls
    (fun s ↦ s.world.statuses = [⟨[], 14, "transport error"⟩]) (by decide)
  exact ⟨s, hrun, of_decide_eq_true hst, status_reports_of_run (Sys.server_initial _ _) hrun⟩

/-- A batch that asks for the status alone is told that the task ended unexpectedly. -/
theorem unread_failure_is_lost :
    let answer : Answer := .notReady .transportError
    let ls : List Label := [.driver .proceed, .driver .notReady, .driver .proceed, .driver .proceed,
      .begin [Op.recvStatusOnClient.flag], .php, .php, .php, .select .message, .php]
    ∃ s, Run (pgraph (Sys.step Tonic.ascii answer)) (.server answer I64.max) ls s ∧
      s.world.statuses = [⟨[], 2, "stream task terminated unexpectedly"⟩] ∧
      ¬ ∀ st ∈ s.world.statuses, s.Reports Tonic.ascii answer (I64.ofInt 1) st := by
  intro answer ls
  obtain ⟨s, hrun, hst⟩ := Run.exists_of_any (Sys.step Tonic.ascii answer)
    (.server answer I64.max) ls
    (fun s ↦ s.world.statuses = [⟨[], 2, "stream task terminated unexpectedly"⟩]
      ∧ s.task.driver.cause.any (fun c ↦ c.isNotReady)) (by decide)
  obtain ⟨hst, hcause⟩ := of_decide_eq_true hst
  refine ⟨s, hrun, hst, fun h ↦ ?_⟩
  have hrep := h _ (by rw [hst]; exact List.mem_singleton_self _)
  generalize hout : (⟨[], 2, "stream task terminated unexpectedly"⟩ : PhpStatus) = st at hrep
  cases hrep with | @event c now hd hof =>
    rw [hd] at hcause
    cases c with
    | notReady status =>
        -- the failure is reported with code 14
        obtain rfl : Status.transportError = status := Answer.notReady.inj hof
        simp [StreamTrailers.toPhp, Cause.trailers, StreamTrailers.ofStatus, statusToPhp,
          Status.transportError] at hout
    | _ => cases hcause

end GrpcPhp
