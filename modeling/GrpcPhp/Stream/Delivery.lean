import GrpcPhp.Lib.Reading
import GrpcPhp.Stream.Headers
import GrpcPhp.Stream.Status

/-!
# Delivery of the response

The messages PHP reads are a reading of the messages of the response: in order, without
gaps, and with a definite end.  What is not read yet is the *backlog*, the messages in the
queue followed by the one the task holds and those the transport has still to yield.  The
task moves messages along the backlog without changing it and a read takes its first one;
only the drain loop throws messages away, and nothing is read after it.
-/

namespace GrpcPhp

open Lib Php

variable {T : Tonic} {answer : Answer}

/-! ## The backlog -/

/-- The message in an item. -/
def payload : Item → Option Bytes
  | .ok m => m
  | .error _ => none

@[simp] theorem payload_item (c : Cause) : payload c.item = none := by cases c <;> rfl

/-- The messages that PHP has not taken from the queue. -/
def Task.backlog (t : Task) : List Bytes := t.queue.filterMap payload ++ t.driver.held ++ t.unread

/-- The task moves messages along the backlog, while somebody receives. -/
theorem Task.Steps.backlog {t t' : Task} {ctx : Ctx} {a : Act} (hs : t.Steps T answer ctx a t')
    (hg : ctx.gone = false) : t'.backlog = t.backlog := by
  unfold Task.backlog
  cases hs with
  | elapsed hd => obtain hd | hd := hd <;> simp [hd, Driver.held]
  | message hd hu => simp [hd, hu, Driver.held]
  | forwarded hd => simp [hd, Driver.held, payload]
  | @ended c now hd => cases c <;> simp [hd, Driver.held, Task.afterItem]
  | forwardFailed _ hg' | endFailed _ hg' => simp [hg] at hg'
  | _ hd => simp [hd, Driver.held]

/-- A task that is past its last item leaves the queue alone. -/
theorem Task.Steps.queue_of_isPast {t t' : Task} {ctx : Ctx} {a : Act}
    (hs : t.Steps T answer ctx a t') (hp : t.driver.isPast = true) : t'.queue = t.queue := by
  cases hs with
  | forwarded hd | ended hd => simp [hd, Driver.isPast] at hp
  | _ => rfl

/-- A task that is past its last item holds no message. -/
theorem Task.backlog_eq_unread {t : Task} (hq : t.queue = []) (hp : t.driver.isPast = true) :
    t.backlog = t.unread := by
  have hh : t.driver.held = [] := by cases hd : t.driver <;> simp_all [Driver.isPast, Driver.held]
  simp [Task.backlog, hq, hh]

/-! ## Reading -/

namespace Sys

variable {s s' : Sys} {start : I64} {l : Label} {rest : List Bytes} {ended : Bool}

@[simp] theorem isGone_afterSend (j : Batch) : (s.afterSend j).isGone = false := by
  rcases s.afterSend_php j with h | h <;> rw [isGone, h]

/-- What a read of the queue returns. -/
theorem reads_gotMessage {item : Option Item} {q : List Item} {j : Batch} {r : BatchResult}
    (hasked : j.parsed.recvMessage = true) (hcached : s.stream.cachedTrailers = none)
    (hdriven : s.stream.driven = true) :
    (s.gotMessage T j r item q).reads = s.world.reads ++ [item.bind payload] := by
  have : (s.stream.recvMessage T s.world.call.deadlineUsec s.now item).1 = item.bind payload := by
    simp only [ActiveStream.recvMessage, hcached, hdriven, Option.isSome_none, Bool.false_eq_true,
      if_true, if_false]
    rcases item with _ | _ | _ | _ <;> rfl
  simp [collect, Sys.gotMessage, messageStage, hasked, Thread.result, this]

/-- The state of reading a response. -/
structure Reads (answer : Answer) (s : Sys) (rest : List Bytes) (ended : Bool) : Prop where
  reading : Reading answer.messages s.reads rest ended
  /-- After the end, the queue is empty and stays so. -/
  dry : s.isGone = false → ended = true → s.task.queue = [] ∧ s.task.driver.isPast = true
  /-- What was not read is the backlog, unless it was thrown away. -/
  left : s.isGone = false → ended = true ∨ s.isDiscarding = false → rest = s.task.backlog
  /-- A call object is dropped only between batches. -/
  exact : s.isGone = true → (∃ st ∈ s.world.statuses, st.code = 0) → ended = true → rest = []

namespace Reads

/-- An OK status after the end means that everything was read. -/
theorem rest_eq_nil (h : s.Reads answer rest ended)
    (hrep : ∀ st ∈ s.world.statuses, s.Accounts T answer start st)
    (hok : ∃ st ∈ s.world.statuses, st.code = 0) (he : ended = true) : rest = [] := by
  cases hg : s.isGone with
  | true => exact h.exact hg hok he
  | false =>
      obtain ⟨st, hst, hcode⟩ := hok
      obtain ⟨hq, hpast⟩ := h.dry hg he
      rw [h.left hg (.inl he), Task.backlog_eq_unread hq hpast]
      obtain ⟨hd, hof, hu, hc⟩ | ⟨-, rfl⟩ := hrep st hst
      · -- the deadline and the token have codes of their own
        refine hu ?_
        rename_i c now
        cases c with
        | deadline | cancelled => cases hcode
        | _ => rfl
      · cases hcode

/-- Nothing is read and nothing taken from the queue. -/
theorem same (h : s.Reads answer rest ended) (hg : s.isGone = false) (hg' : s'.isGone = false)
    (hr : s'.reads = s.reads) (hb : s'.task.backlog = s.task.backlog)
    (hq : s.task.queue = [] → s.task.driver.isPast = true →
      s'.task.queue = [] ∧ s'.task.driver.isPast = true)
    (hd : s'.isDiscarding = false → s.isDiscarding = false) : s'.Reads answer rest ended where
  reading := hr ▸ h.reading
  dry _ he := hq (h.dry hg he).1 (h.dry hg he).2
  left _ he := hb ▸ h.left hg (he.imp_right hd)
  exact hg'' := by simp [hg'] at hg''

/-- The PHP thread leaves the task alone. -/
theorem of_task (h : s.Reads answer rest ended) (hg : s.isGone = false) (hg' : s'.isGone = false)
    (hr : s'.reads = s.reads) (ht : s'.task = s.task)
    (hd : s'.isDiscarding = false → s.isDiscarding = false) :
    ∃ rest ended, s'.Reads answer rest ended :=
  ⟨rest, ended, h.same hg hg' hr (by rw [ht]) (fun hq hp ↦ ht ▸ ⟨hq, hp⟩) hd⟩

/-- A read of the queue. -/
theorem gotMessage {item : Option Item} {q : List Item} {j : Batch} {r : BatchResult}
    (h : s.Reads answer rest ended) (hc : s.Coherent T answer start) (hb : s.php.isBusy = true)
    (hdr : s.php.isDraining = false) (hr : s.php.result.message = none)
    (hasked : j.parsed.recvMessage = true) (hcached : s.stream.cachedTrailers = none)
    (hrecv : Queue.recv s.closed s.task.queue = some (item, q)) :
    ∃ rest ended, (s.gotMessage T j r item q).Reads answer rest ended := by
  have hg := isGone_of_isBusy hb
  have hreads : (s.gotMessage T j r item q).reads = s.reads ++ [item.bind payload] := by
    rw [reads_gotMessage hasked hcached hc.driven]
    simp [collect, hr]
  have hleft := h.left hg (.inr (by simp [isDiscarding, hdr, hc.unfinished hb]))
  obtain ⟨m, rfl, hq⟩ | ⟨hn, rfl, hpast, hq⟩ := hc.recv_cases hg hrecv
  · -- the first message of the backlog
    have hend : ended = false := by
      by_contra he
      have := (h.dry hg (by simpa using he)).1
      rw [hq] at this
      cases this
    subst hend
    have hback : rest = m :: (s.gotMessage T j r (some (.ok (some m))) q).task.backlog := by
      rw [hleft]
      simp [Task.backlog, hq, payload, Sys.gotMessage]
    refine ⟨_, false, ?_, fun _ he ↦ ?_, fun _ _ ↦ rfl, fun hg' ↦ ?_⟩
    · rw [hreads]
      exact .next (hback ▸ h.reading)
    · cases he
    · cases hg'
  · -- the end: the queue holds no message any more
    refine ⟨rest, true, ?_, fun _ _ ↦ ⟨rfl, hpast⟩, fun _ _ ↦ ?_, fun hg' ↦ ?_⟩
    · have : item.bind payload = none := by
        rcases item with _ | _ | _ | m
        · rfl
        · rfl
        · rfl
        · exact absurd rfl (hn m)
      rw [hreads, this]
      exact h.reading.null
    · rw [hleft]
      obtain hq | ⟨c, -, -, hq⟩ := hq <;> simp [Task.backlog, hq, Sys.gotMessage]
    · cases hg'

/-- A read after the stream is known to have ended. -/
theorem gotNull {j : Batch} {r : BatchResult} (h : s.Reads answer rest ended)
    (hc : s.Coherent T answer start) (hp : s.php = .message j r)
    (hasked : j.parsed.recvMessage = true) (hcached : s.stream.cachedTrailers.isSome = true) :
    ∃ rest ended, (s.gotMessage T j r none s.task.queue).Reads answer rest ended := by
  obtain ⟨t, ht⟩ := Option.isSome_iff_exists.mp hcached
  obtain ⟨hq, status, now, rfl, hd, -⟩ := hc.cached t ht
  have hreads : (s.gotMessage T j r none s.task.queue).reads = s.reads ++ [none] := by
    have hstage := hc.stage
    rw [hp] at hstage
    simp [collect, Sys.gotMessage, messageStage, hasked, ActiveStream.recvMessage, hcached, hp,
      Thread.result, hstage.1]
  refine ⟨rest, true, hreads ▸ h.reading.null, fun _ _ ↦ ⟨hq, by simp [Sys.gotMessage, hd,
    Driver.isPast]⟩, fun _ _ ↦ ?_, fun hg' ↦ ?_⟩
  · refine h.left (isGone_of_isBusy (by rw [hp]; rfl)) (.inr ?_)
    simp [isDiscarding, hp, Thread.isDraining, hc.unfinished (by rw [hp]; rfl)]
  · cases hg'

/-- The PHP thread throws away what is in the queue. -/
theorem discard {q : List Item} {php : Thread} (h : s.Reads answer rest ended)
    (hphp : php.isDraining = true) (hres : php.result = s.php.result) (hg : s.isGone = false)
    (hq : s.task.queue = [] → q = []) :
    ∃ rest ended, ({ s with task := { s.task with queue := q }, php := php } : Sys).Reads answer
      rest ended := by
  refine ⟨rest, ended, ?_, fun _ he ↦ ⟨hq (h.dry hg he).1, (h.dry hg he).2⟩, fun _ he ↦ ?_,
    fun hg' ↦ ?_⟩
  · simpa [collect, hres] using h.reading
  · obtain he | hd := he
    · obtain ⟨hq', hpast⟩ := h.dry hg he
      rw [h.left hg (.inl he), Task.backlog_eq_unread hq' hpast]
      exact (Task.backlog_eq_unread (t := { s.task with queue := q }) (hq hq') hpast).symm
    · simp [isDiscarding, hphp] at hd
  · cases php <;> cases hphp <;> cases hg'

theorem advances (h : s.Reads answer rest ended) (hc : s.Coherent T answer start)
    (ha : s.Advances T s') : ∃ rest ended, s'.Reads answer rest ended := by
  have hstage := hc.stage
  have same {php : Thread} (hp : s.php = php) (hb : php.isBusy = true)
      (hd : php.isDraining = false) (hg' : s'.isGone = false) (hr : s'.reads = s.reads)
      (ht : s'.task = s.task) : ∃ rest ended, s'.Reads answer rest ended :=
    h.of_task (hc.not_discarding hp hb hd).1 hg' hr ht fun _ ↦ (hc.not_discarding hp hb hd).2
  cases ha with
  | sendFailed hp => exact same hp rfl rfl rfl (collect_sendFailed received_message hp _) rfl
  | sent hp => exact same hp rfl rfl (by simp) (collect_sent received_message hp) (by simp)
  | awaited hp | notAwaited hp =>
      exact same hp rfl rfl rfl (by simp [collect, hp, Thread.result, Sys.gotHeaders]) rfl
  | received hp hb hcached hrecv =>
      rw [hp] at hstage
      exact h.gotMessage hc (by rw [hp]; rfl) (by rw [hp]; rfl) (by rw [hp]; exact hstage.1) hb
        hcached hrecv
  | woken hp hrecv =>
      rw [hp] at hstage
      exact h.gotMessage hc (by rw [hp]; rfl) (by rw [hp]; rfl) (by rw [hp]; exact hstage.1.1)
        hstage.2.1 hstage.2.2 hrecv
  | empty hp | drains hp => exact same hp rfl rfl rfl (by simp [collect, hp, Thread.result]) rfl
  | @noMessage j r hp hn =>
      cases hb : j.parsed.recvMessage with
      | true => exact h.gotNull hc hp hb (by simpa [hb] using hn)
      | false =>
          exact same hp rfl rfl rfl
            (by simp [collect, hp, Thread.result, Sys.gotMessage, messageStage, hb]) rfl
  | noDrain hp =>
      exact same hp rfl rfl rfl
        (collect_gotStatus received_message (by rw [hp]; rfl) (by simp)) rfl
  | @trailers j r hp =>
      -- the status has been asked for, and ends the call
      obtain ⟨hg, hres, hdr⟩ := hc.drains hp
      refine h.of_task hg rfl (collect_gotStatus received_message hres (by simp)) rfl fun hd ↦ ?_
      simp [isDiscarding, Sys.gotStatus, Sys.complete, hdr.asked] at hd
  | discarded hp hq =>
      exact h.discard (by rw [hp]; rfl) rfl (hc.drains (.inl hp)).1 fun hnil ↦ by
        rw [hnil] at hq
        cases hq
  | drained hp hrecv hn =>
      obtain ⟨m, hm, -⟩ | ⟨-, rfl, -⟩ := hc.recv_cases (hc.drains (.inl hp)).1 hrecv
      · exact absurd hm (hn m)
      · exact h.discard rfl (by rw [hp]; rfl) (hc.drains (.inl hp)).1 fun _ ↦ rfl

theorem enters {ops : ZendHashTable} (h : s.Reads answer rest ended) (hp : s.php = .idle)
    (he : s.Enters ops s') : ∃ rest ended, s'.Reads answer rest ended := by
  have hg := isGone_of_idle hp
  have hdis (hf : s.world.call.finished = false) : s.isDiscarding = false := by
    simp [isDiscarding, hp, Thread.isDraining, hf]
  have hreads := he.collect_eq received_message hp
  cases he with
  | refused => exact h.of_task hg rfl hreads rfl hdis
  | empty => exact h.of_task hg hg hreads rfl fun hd ↦ hd
  | noSender hadm => exact h.of_task hg rfl hreads rfl fun _ ↦ hdis hadm.notFinished
  | sends hadm => exact h.of_task hg rfl hreads rfl fun _ ↦ hdis hadm.notFinished
  | passes hadm => exact h.of_task hg (by simp) hreads (by simp) fun _ ↦ hdis hadm.notFinished

theorem moves (h : s.Reads answer rest ended) (hc : s.Coherent T answer start)
    (hrep : ∀ st ∈ s.world.statuses, s.Accounts T answer start st)
    (hm : s.Moves T answer l s') : ∃ rest ended, s'.Reads answer rest ended := by
  cases hm with
  | begins hp he => exact h.enters hp he
  | php ha => exact h.advances hc ha
  | selects _ ha => exact h.advances hc ha
  | turns hp =>
      exact h.of_task (isGone_of_idle hp) (isGone_of_idle hp) rfl rfl (by simp [isDiscarding])
  | drops hp =>
      refine ⟨rest, ended, ?_, fun hg ↦ ?_, fun hg ↦ ?_, fun _ ↦ h.rest_eq_nil hrep⟩
      · simpa [collect, hp, Thread.result] using h.reading
      · cases hg
      · cases hg
  | driver hs =>
      cases hg : s.isGone with
      | true =>
          refine ⟨rest, ended, h.reading, fun hg' ↦ ?_, fun hg' ↦ ?_, h.exact⟩
          · cases hg.symm.trans hg'
          · cases hg.symm.trans hg'
      | false =>
          refine ⟨rest, ended, h.same hg hg rfl (hs.backlog hg) (fun hq hp ↦ ?_) fun hd ↦ hd⟩
          exact ⟨(hs.queue_of_isPast hp).trans hq, hs.isPast hp⟩
  | pulls => exact ⟨rest, ended, h.reading, h.dry, h.left, h.exact⟩
  | abandons => exact ⟨rest, ended, h.reading, h.dry, h.left, h.exact⟩
  | ticks => exact ⟨rest, ended, h.reading, h.dry, h.left, h.exact⟩

end Reads

/-- **What PHP reads is a reading of the response, in every run.** -/
theorem reads_of_run {s₀ : Sys} {ls : List Label} (h₀ : Initial answer s₀)
    (h : Run (pgraph (step T answer)) s₀ ls s) : ∃ rest ended, s.Reads answer rest ended := by
  refine h.invariant_of_run (I := fun _ s ↦ ∃ rest ended, s.Reads answer rest ended) ?_ ?_
  · cases h₀ with
    | @spawned bidi call connectivity php now hphp hfin =>
        have hr : (Sys.spawn answer bidi call connectivity php now).reads = [] := by
          cases php with
          | headers j r => cases hphp; rfl
          | idle | sending => rfl
          | _ => exact hphp.elim
        have hg : (Sys.spawn answer bidi call connectivity php now).isGone = false := by
          cases php with
          | headers | idle | sending => rfl
          | _ => exact hphp.elim
        refine ⟨answer.messages, false, hr ▸ .start, nofun, fun _ _ ↦ rfl, fun hg' ↦ ?_⟩
        cases hg.symm.trans hg'
  · rintro ls t l u hrun ⟨rest, ended, ih⟩ hs
    exact ih.moves (coherent_of_run h₀ hrun) (reports_of_run h₀ hrun) (step_moves hs)

end Sys

/-! ## Delivery -/

/-- What PHP got from a response, by the results in its log. -/
structure Delivered (T : Tonic) (answer : Answer) (ls : List Label) (w : World) : Prop where
  /-- The messages are read in order and without gaps. -/
  inOrder : w.reads.reduceOption <+: answer.messages
  /-- After a null there are only nulls. -/
  nullStays : w.reads.Pairwise fun a b ↦ a = none → b = none
  /-- A null and an OK status mean that all messages were read. -/
  complete : none ∈ w.reads → (∃ st ∈ w.statuses, st.code = 0) →
    w.reads.reduceOption = answer.messages
  /-- The first batch to ask for the headers gets them, if the task received them. -/
  headers : .driver .headers ∈ ls → ∀ md ∈ w.headers.head?, md = metadataToPhp T answer.headers

/-- **Delivery is lossless, in order and cleanly terminated**, in every state of every run. -/
theorem delivered_of_run {s₀ s : Sys} {ls : List Label} (h₀ : Sys.Initial answer s₀)
    (h : Run (pgraph (Sys.step T answer)) s₀ ls s) : Delivered T answer ls s.world := by
  obtain ⟨rest, ended, hr⟩ := Sys.reads_of_run h₀ h
  have hheads := Sys.heads_of_run h₀ h
  have hsplit : s.reads = s.world.reads ++ s.php.result.message.toList := rfl
  have hpair := hr.reading.pairwise
  have hall := hr.reading.append_rest
  rw [hsplit] at hpair hall
  refine ⟨?_, (List.pairwise_append.mp hpair).1, fun hnull hok ↦ ?_, fun hh md hmd ↦ ?_⟩
  · rw [List.reduceOption_append, List.append_assoc] at hall
    exact ⟨_, hall⟩
  · -- after a null, a batch in progress can only hold another one
    have hmem : none ∈ s.reads := hsplit ▸ List.mem_append_left _ hnull
    have hrest := hr.rest_eq_nil (Sys.reports_of_run h₀ h) hok (hr.reading.none_mem.mp hmem)
    have hcur : s.php.result.message.toList.reduceOption = [] := by
      cases hm : s.php.result.message with
      | none => rfl
      | some m =>
          have := (List.pairwise_append.mp hpair).2.2 none hnull m (by simp [hm]) rfl
          subst this
          rfl
    simpa [List.reduceOption_append, hrest, hcur] using hall
  · have hhead : s.headers.head? = some md := by
      change (s.world.headers ++ _).head? = _
      rw [List.head?_append, Option.mem_def.mp hmd]
      rfl
    obtain hd | hsent := hheads.answered hh
    · -- nobody can have got headers that were not sent
      cases hrx : s.stream.metaRx with
      | true => simp [hheads.fresh hrx] at hhead
      | false =>
          obtain ⟨_, hsent, -⟩ := hheads.taken hrx
          simp [hheads.early (by rw [hd]; rfl)] at hsent
    · exact hheads.head_eq hsent hhead

/-- A response of two messages, one of them empty, read to its end. -/
theorem delivered_of_run_two :
    let answer : Answer := .response ⟨[], [[1], []], .clean (.ok none)⟩
    let read : Label := .begin [Op.recvInitialMetadata.flag, Op.recvMessage.flag]
    let ls : List Label := [.driver .proceed, .driver .ready, .driver .headers, .driver .proceed,
      .driver .message, .driver .proceed, read, .php, .php, .php,
      .driver .message, .driver .proceed, read, .php, .php, .php,
      .driver .finish, .driver .proceed, .driver .proceed, read, .php, .php, .php,
      .begin [Op.recvStatusOnClient.flag], .php, .php, .php, .select .trailers]
    ∃ s, Run (pgraph (Sys.step Tonic.ascii answer)) (.server answer I64.max) ls s ∧
      (s.world.reads = [some [1], some [], none] ∧ s.world.statuses = [⟨[], 0, ""⟩]) ∧
      Delivered Tonic.ascii answer ls s.world := by
  intro answer read ls
  obtain ⟨s, hrun, hres⟩ := Run.exists_of_any (Sys.step Tonic.ascii answer) (.server answer I64.max)
    ls (fun s ↦ s.world.reads = [some [1], some [], none] ∧ s.world.statuses = [⟨[], 0, ""⟩])
    (by decide)
  exact ⟨s, hrun, of_decide_eq_true hres, delivered_of_run (Sys.server_initial _ _) hrun⟩

end GrpcPhp
