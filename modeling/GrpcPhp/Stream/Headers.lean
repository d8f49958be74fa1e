import GrpcPhp.Stream.Results

/-!
# Delivery of the headers

The headers are sent once, on a oneshot, and the first batch that asks takes them.  A
task that has seen the response headers sends those; one that ended before the response
sends empty ones.  Batches that come later get nothing.
-/

namespace GrpcPhp

open Lib Php

variable {T : Tonic} {answer : Answer}

namespace Task.Steps

variable {t t' : Task} {ctx : Ctx} {a : Act}

/-- Headers are sent at the end of the early program points. -/
theorem headers_eq (hs : t.Steps T answer ctx a t') (he : t.driver.isEarly = false) :
    t'.headers = t.headers := by
  cases hs with
  | opened hd | refused hd => simp [hd, Driver.isEarly] at he
  | _ => rfl

theorem early_of_early (hs : t.Steps T answer ctx a t') (he : t'.driver.isEarly = true) :
    t.driver.isEarly = true ∧ t'.headers = t.headers := by
  cases hs with
  | start hd | ready hd | notReady hd | headers hd | rejected hd => exact ⟨by rw [hd]; rfl, rfl⟩
  | elapsed hd => obtain hd | hd := hd <;> exact ⟨by rw [hd]; rfl, rfl⟩
  | @ended c now | @endFailed c now => cases c <;> cases he
  | _ => cases he

end Task.Steps

namespace Sys

variable {s s' : Sys} {start : I64} {l : Label} {ls : List Label}

/-- The state of handing over the headers, after the steps `ls`. -/
structure Heads (T : Tonic) (answer : Answer) (ls : List Label) (s : Sys) : Prop where
  early : s.task.driver.isEarly = true → s.task.headers = none
  answered : .driver .headers ∈ ls →
    s.task.driver = .opening ∨ s.task.headers = some answer.headers
  stored : s.stream.initialMetadata = none
  fresh : s.stream.metaRx = true → s.headers = []
  taken : s.stream.metaRx = false →
    ∃ md, s.task.headers = some md ∧ s.headers.head? = some (metadataToPhp T md)

namespace Heads

/-- Steps that hand over no headers. -/
theorem same (h : s.Heads T answer ls) (hl : l ≠ .driver .headers)
    (hd : s'.task.driver = s.task.driver) (ht : s'.task.headers = s.task.headers)
    (hi : s'.stream.initialMetadata = s.stream.initialMetadata)
    (hrx : s'.stream.metaRx = s.stream.metaRx) (hh : s'.headers = s.headers) :
    s'.Heads T answer (ls ++ [l]) := by
  obtain ⟨early, answered, stored, fresh, taken⟩ := h
  refine ⟨?_, fun hmem ↦ ?_, hi ▸ stored, ?_, ?_⟩
  · rwa [hd, ht]
  · rw [hd, ht]
    exact answered (by simpa [hl.symm] using hmem)
  · rwa [hrx, hh]
  · rwa [hrx, ht, hh]

/-- The first batch that asks gets what the task sent. -/
theorem awaited {j : Batch} (h : s.Heads T answer ls) (hc : s.Coherent T answer start)
    (hp : s.php = .headers j {}) (hb : j.parsed.recvInitialMetadata = true)
    (ha : s.stream.awaitsHeaders = true) (hclosed : s.task.headers = none → s.closed = true)
    (hl : l ≠ .driver .headers) :
    (s.gotHeaders T j {} s.task.headers).Heads T answer (ls ++ [l]) := by
  obtain ⟨md, hmd⟩ : ∃ md, s.task.headers = some md := by
    rw [← Option.isSome_iff_exists]
    by_contra hn
    refine hn ((hc.task (isGone_of_isBusy (by rw [hp]; rfl))).headers_isSome (hclosed ?_))
    simpa using hn
  have hrx : s.stream.metaRx = true := by
    simp only [ActiveStream.awaitsHeaders, Bool.and_eq_true] at ha
    exact ha.2
  have hnil : s.world.headers = [] := by
    have := h.fresh hrx
    simpa [collect, hp, Thread.result] using this
  refine ⟨h.early, fun hmem ↦ h.answered (by simpa [hl.symm] using hmem), ?_, fun hrx' ↦ ?_,
    fun _ ↦ ⟨md, hmd, ?_⟩⟩
  · simp [Sys.gotHeaders, headersStage, hb, ActiveStream.recvInitialMetadata]
  · simp [Sys.gotHeaders, headersStage, hb, ActiveStream.recvInitialMetadata, ha] at hrx'
  · simp [Sys.gotHeaders, headersStage, hb, ActiveStream.recvInitialMetadata, ha, collect, hnil,
      Thread.result, hmd]

/-- A batch that asks again gets nothing. -/
theorem notAwaited {j : Batch} (h : s.Heads T answer ls) (hp : s.php = .headers j {})
    (hb : j.parsed.recvInitialMetadata = true) (ha : s.stream.awaitsHeaders = false)
    (hl : l ≠ .driver .headers) : (s.gotHeaders T j {} none).Heads T answer (ls ++ [l]) := by
  have hrx : s.stream.metaRx = false := by
    simpa [ActiveStream.awaitsHeaders, h.stored] using ha
  have hstream : (s.gotHeaders T j {} none).stream = { s.stream with initialMetadata := none } := by
    simp [Sys.gotHeaders, headersStage, hb, ActiveStream.recvInitialMetadata, ha]
  obtain ⟨md, hmd, hhead⟩ := h.taken hrx
  refine ⟨h.early, fun hmem ↦ h.answered (by simpa [hl.symm] using hmem), by rw [hstream],
    fun hrx' ↦ ?_, fun _ ↦ ⟨md, hmd, ?_⟩⟩
  · simp [hstream, hrx] at hrx'
  · have hh : s.headers = s.world.headers := by simp [collect, hp, Thread.result]
    rw [hh] at hhead
    change (s.world.headers ++ _).head? = _
    rw [List.head?_append, hhead]
    rfl

theorem advances (h : s.Heads T answer ls) (hc : s.Coherent T answer start)
    (hl : l ≠ .driver .headers) (ha : s.Advances T s') : s'.Heads T answer (ls ++ [l]) := by
  have hstage := hc.stage
  cases ha with
  | sendFailed hp => exact h.same hl rfl rfl rfl rfl (collect_sendFailed received_metadata hp _)
  | sent hp =>
      obtain ⟨_, hst⟩ := afterSend_stream _ _
      exact h.same hl (by simp) (by simp) (by rw [hst]) (by rw [hst])
        (collect_sent received_metadata hp)
  | awaited hp hb hw hclosed =>
      rw [hp] at hstage
      cases hstage
      exact h.awaited hc hp hb hw hclosed hl
  | @notAwaited j r hp hn =>
      rw [hp] at hstage
      cases hstage
      cases hb : j.parsed.recvInitialMetadata with
      | true => exact h.notAwaited hp hb (by simpa [hb] using hn) hl
      | false =>
          exact h.same hl rfl rfl (by simp [Sys.gotHeaders, headersStage, hb])
            (by simp [Sys.gotHeaders, headersStage, hb])
            (by simp [collect, Sys.gotHeaders, headersStage, hb, hp, Thread.result])
  | received hp | woken hp | noMessage hp =>
      exact h.same hl rfl rfl (by simp [Sys.gotMessage]) (by simp [Sys.gotMessage])
        (by simp [collect, Sys.gotMessage, hp, Thread.result])
  | empty hp | drains hp | drained hp =>
      exact h.same hl rfl rfl rfl rfl (by simp [collect, hp, Thread.result])
  | noDrain hp =>
      exact h.same hl rfl rfl (by simp [Sys.gotStatus, Sys.complete])
        (by simp [Sys.gotStatus, Sys.complete])
        (collect_gotStatus received_metadata (by rw [hp]; rfl) (by simp))
  | trailers hp =>
      exact h.same hl rfl rfl (by simp [Sys.gotStatus, Sys.complete])
        (by simp [Sys.gotStatus, Sys.complete])
        (collect_gotStatus received_metadata (by obtain hp | hp := hp <;> rw [hp] <;> rfl)
          (by simp))
  | discarded => exact h.same hl rfl rfl rfl rfl rfl

theorem enters {ops : ZendHashTable} (h : s.Heads T answer ls) (hl : l ≠ .driver .headers)
    (hp : s.php = .idle) (he : s.Enters ops s') : s'.Heads T answer (ls ++ [l]) := by
  have hh := he.collect_eq received_metadata hp
  cases he with
  | passes =>
      obtain ⟨_, hst⟩ := afterSend_stream _ _
      exact h.same hl (by simp) (by simp) (by rw [hst]) (by rw [hst]) hh
  | _ => exact h.same hl rfl rfl rfl rfl hh

/-- The task sends headers once. -/
theorem driver {a : Act} {task : Task} (h : s.Heads T answer ls)
    (hs : s.task.Steps T answer s.ctx a task) :
    (s.afterTask answer a task).Heads T answer (ls ++ [.driver a]) := by
  have keeps {md : MetadataMap} (hmd : s.task.headers = some md) : task.headers = some md := by
    rw [hs.headers_eq, hmd]
    by_contra he
    simp [h.early (by simpa using he)] at hmd
  refine ⟨fun he ↦ ?_, fun hmem ↦ ?_, h.stored, h.fresh, fun hrx ↦ ?_⟩
  · obtain ⟨he, ht⟩ := hs.early_of_early he
    exact ht.trans (h.early he)
  · obtain hmem | rfl : .driver .headers ∈ ls ∨ Act.headers = a := by simpa using hmem
    · obtain hd | hmd := h.answered hmem
      · -- the next step sends them
        cases hs with
        | opened => exact .inr rfl
        | elapsed hd' => simp [hd] at hd'
        | _ hd' => simp [hd] at hd'
      · exact .inr (keeps hmd)
    · cases hs
      exact .inl rfl
  · obtain ⟨md, hmd, hhead⟩ := h.taken hrx
    exact ⟨md, keeps hmd, hhead⟩

theorem moves (h : s.Heads T answer ls) (hc : s.Coherent T answer start)
    (hm : s.Moves T answer l s') : s'.Heads T answer (ls ++ [l]) := by
  cases hm with
  | begins hp he => exact h.enters (by simp) hp he
  | php ha => exact h.advances hc (by simp) ha
  | selects _ ha => exact h.advances hc (by simp) ha
  | driver hs => exact h.driver hs
  | drops hp => exact h.same (by simp) rfl rfl rfl rfl (by simp [collect, hp, Thread.result])
  | turns | pulls | abandons | ticks => exact h.same (by simp) rfl rfl rfl rfl rfl

/-- The first batch that asked got what the task sent. -/
theorem head_eq {md : MetadataEntries} {sent : MetadataMap} (h : s.Heads T answer ls)
    (hsent : s.task.headers = some sent) (hhead : s.headers.head? = some md) :
    md = metadataToPhp T sent := by
  cases hrx : s.stream.metaRx with
  | true => simp [h.fresh hrx] at hhead
  | false =>
      obtain ⟨md', hsent', hgot⟩ := h.taken hrx
      rw [hsent] at hsent'
      cases hsent'
      exact Option.some.inj (hhead.symm.trans hgot)

end Heads

/-- **The headers are handed over in every run.** -/
theorem heads_of_run {s₀ : Sys} (h₀ : Initial answer s₀)
    (h : Run (pgraph (step T answer)) s₀ ls s) : s.Heads T answer ls := by
  refine h.invariant_of_run ?_ fun ls t l u hrun ih hs ↦
    ih.moves (coherent_of_run h₀ hrun) (step_moves hs)
  cases h₀ with
  | @spawned bidi call connectivity php now hphp hfin =>
      refine ⟨fun _ ↦ rfl, nofun, rfl, fun _ ↦ ?_, nofun⟩
      cases php with
      | headers j r => cases hphp; rfl
      | idle | sending => rfl
      | _ => exact hphp.elim

end Sys

end GrpcPhp
