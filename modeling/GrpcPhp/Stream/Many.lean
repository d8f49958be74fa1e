import GrpcPhp.Stream.Channels

/-!
# Several streams on one thread

PHP may have any number of streams open.  Each has its own task, queues and oneshots.  They share
the clock, the PHP thread, which is inside at most one batch, and the state of their channel,
which every task and much else on the thread writes.

So the system of one stream is a view of this one, up to the state of the channel: a step of
another stream changes nothing else.  That is what `Sys.step_setConnectivity` is for; no step of a
stream depends on the state of its channel.
-/

namespace GrpcPhp

open Lib Php

variable {T : Tonic} {answer : Answer}

/-! ## The state of the channel -/

namespace Sys

variable {s s' : Sys} {l : Label} {c : ChannelState}

/-- The system with another channel state. -/
def setConnectivity (s : Sys) (c : ChannelState) : Sys :=
  { s with world := { s.world with connectivity := c } }

@[simp] theorem setConnectivity_setConnectivity (s : Sys) (c c' : ChannelState) :
    (s.setConnectivity c).setConnectivity c' = s.setConnectivity c' := rfl

theorem afterSend_setConnectivity (s : Sys) (c : ChannelState) (j : Batch) :
    (s.setConnectivity c).afterSend j = (s.afterSend j).setConnectivity c := by
  unfold afterSend
  cases j.parsed.hasRecvOps <;> rfl

theorem begin_setConnectivity (s : Sys) (c : ChannelState) (ops : ZendHashTable) :
    (s.setConnectivity c).begin ops = (s.begin ops).setConnectivity c := by
  have hcall : (s.setConnectivity c).world.call = s.world.call := rfl
  unfold begin
  rw [hcall]
  cases admission s.world.call ops with
  | error e => rfl
  | ok o =>
      cases o with
      | none => rfl
      | some b =>
          have hsend := afterSend_setConnectivity
            { s with world := s.world.mapCall (·.accept b) } c ⟨ops, b⟩
          have htx : (s.setConnectivity c).stream.msgTx = s.stream.msgTx := rfl
          dsimp only
          rw [htx]
          cases b.sendMessage with
          | none => exact hsend
          | some m => cases s.stream.msgTx <;> rfl

theorem phpStep_setConnectivity (s : Sys) (c : ChannelState) :
    (s.setConnectivity c).phpStep T = (s.phpStep T).map (·.setConnectivity c) := by
  have hphp : (s.setConnectivity c).php = s.php := rfl
  unfold phpStep
  rw [hphp]
  cases s.php with
  | idle | draining | gone => rfl
  | sending j m =>
      dsimp only
      rw [apply_ite (Option.map _), Option.map_map]
      refine if_congr Iff.rfl rfl (congrArg (Option.map · _) (funext fun q ↦ ?_))
      exact afterSend_setConnectivity
        { s with requests := q, world := s.world.emit (.message m) } c j
  | headers j r =>
      dsimp only
      rw [apply_ite (Option.map _), Option.map_map]
      rfl
  | message j r =>
      dsimp only
      rw [apply_ite (Option.map _)]
      refine if_congr Iff.rfl ?_ rfl
      have hrecv : Queue.recv (s.setConnectivity c).closed (s.setConnectivity c).task.queue
          = Queue.recv s.closed s.task.queue := rfl
      rw [hrecv]
      cases Queue.recv s.closed s.task.queue <;> rfl
  | waiting j r =>
      dsimp only
      rw [Option.map_map]
      rfl
  | status j r =>
      dsimp only
      rw [apply_ite (Option.map _)]
      rfl
  | trailing j r =>
      dsimp only
      rw [Option.map_map]
      rfl

theorem select_setConnectivity (s : Sys) (c : ChannelState) (arm : Arm) :
    (s.setConnectivity c).select T arm = (s.select T arm).map (·.setConnectivity c) := by
  have hphp : (s.setConnectivity c).php = s.php := rfl
  unfold select
  rw [hphp]
  cases s.php with
  | draining j r =>
      cases arm with
      | trailers =>
          dsimp only
          rw [Option.map_map]
          rfl
      | message =>
          dsimp only
          rw [Option.map_map]
          refine congrArg (Option.map · _) (funext fun p ↦ ?_)
          rw [Function.comp_apply]
          split <;> rfl
  | _ => rfl

variable (T answer) in
/-- **No step depends on the state of the channel.** -/
theorem step_setConnectivity (s : Sys) (c : ChannelState) (l : Label) :
    ∃ c', (s.setConnectivity c).step T answer l
      = (s.step T answer l).map (·.setConnectivity c') := by
  have hphp : (s.setConnectivity c).php = s.php := rfl
  cases l with
  | begin ops =>
      refine ⟨c, ?_⟩
      unfold step
      dsimp only
      rw [hphp]
      cases s.php with
      | idle => exact congrArg some (begin_setConnectivity s c ops)
      | _ => rfl
  | php => exact ⟨c, phpStep_setConnectivity s c⟩
  | select arm => exact ⟨c, select_setConnectivity s c arm⟩
  | aside a =>
      refine ⟨c, ?_⟩
      unfold step
      dsimp only
      rw [hphp]
      cases s.php <;> rfl
  | drop =>
      refine ⟨c, ?_⟩
      unfold step
      dsimp only
      rw [hphp]
      cases s.php <;> rfl
  | driver a =>
      refine ⟨(s.setConnectivity c).answered answer a, ?_⟩
      have hctx : (s.setConnectivity c).ctx = s.ctx := rfl
      have htask : (s.setConnectivity c).task = s.task := rfl
      simp only [step, hctx, htask, Option.map_map]
      rfl
  | pull =>
      refine ⟨c, ?_⟩
      have hholder : (s.setConnectivity c).holder = s.holder := rfl
      have hrequests : (s.setConnectivity c).requests = s.requests := rfl
      simp only [step, hholder, hrequests]
      cases s.holder with
      | transport => cases s.requests <;> rfl
      | task | nobody => rfl
  | abandon =>
      refine ⟨c, ?_⟩
      have hholder : (s.setConnectivity c).holder = s.holder := rfl
      simp only [step, hholder]
      cases s.holder <;> rfl
  | tick t =>
      refine ⟨c, ?_⟩
      simp only [step, apply_ite (Option.map _)]
      rfl

/-- Only a tick moves the clock. -/
theorem step_now (h : s.step T answer l = some s') (hl : ∀ t, l ≠ .tick t) : s'.now = s.now := by
  cases step_moves h with
  | begins _ he => exact he.frame.now
  | php ha => exact ha.frame.now
  | selects _ ha => exact ha.frame.now
  | ticks => exact absurd rfl (hl _)
  | turns | drops | driver | pulls | abandons => rfl

end Sys

/-! ## The streams of a thread -/

/-- Streams by number, with what they share: the clock, and the states of the channels.  What
a stream has of its own of these is not read. -/
structure Streams where
  now : I64
  connectivity : ℕ → ChannelState
  streams : ℕ → Option Sys

/-- What can happen. -/
inductive StreamsLabel where
  /-- A batch starts a stream, after which the thread is at the given point. -/
  | start (i : ℕ) (bidi : Bool) (call : GrpcCall) (php : Thread)
  /-- A step of one stream. -/
  | on (i : ℕ) (l : Label)
  /-- Time passes. -/
  | tick (t : I64)
  /-- Anything else that sets the state of a channel. -/
  | setState (channel : ℕ) (c : ChannelState)

/-- The steps of the PHP thread. -/
def Label.isThread : Label → Bool
  | .begin _ | .php | .select _ | .aside _ | .drop => true
  | .driver _ | .pull | .abandon | .tick _ => false

namespace Streams

/-- What stream `i` is with what it shares, where it belongs to the given channel. -/
def view (p : Streams) (channel : ℕ) (s : Sys) : Sys :=
  { s.setConnectivity (p.connectivity channel) with now := p.now }

/-- The thread is not inside a batch on another stream. -/
def Free (p : Streams) (i : ℕ) : Prop :=
  ∀ j s, j ≠ i → p.streams j = some s → s.php.isBusy = false

/-- One step, where stream `i` is on channel `channel i` and is answered with `answer i`. -/
inductive Step (T : Tonic) (answer : ℕ → Answer) (channel : ℕ → ℕ) (p : Streams) :
    StreamsLabel → Streams → Prop
  | start {i : ℕ} {bidi : Bool} {call : GrpcCall} {php : Thread} :
      p.streams i = none → p.Free i → php.Starts → call.finished = false →
      Step T answer channel p (.start i bidi call php)
        { p with
          streams := Function.update p.streams i
            (some (.spawn (answer i) bidi call (p.connectivity (channel i)) php p.now)) }
  | on {i : ℕ} {l : Label} {s s' : Sys} : p.streams i = some s → (∀ t, l ≠ .tick t) →
      (l.isThread = true → p.Free i) →
      (p.view (channel i) s).step T (answer i) l = some s' →
      Step T answer channel p (.on i l)
        { p with
          connectivity := Function.update p.connectivity (channel i) s'.world.connectivity
          streams := Function.update p.streams i (some s') }
  | tick {t : I64} : p.now.val ≤ t.val → Step T answer channel p (.tick t) { p with now := t }
  | setState {k : ℕ} {c : ChannelState} : Step T answer channel p (.setState k c)
      { p with connectivity := Function.update p.connectivity k c }

variable {T : Tonic} {answer : ℕ → Answer} {channel : ℕ → ℕ} {p p' : Streams} {l : StreamsLabel}

/-- The label of a step, for one stream. -/
def own (i : ℕ) : StreamsLabel → Option Label
  | .on j l => if j = i then some l else none
  | .start _ _ _ _ | .tick _ | .setState _ _ => none

/-- A label that is not a tick. -/
def isNotTick : Label → Bool
  | .tick _ => false
  | _ => true

/-- A run of the system of one stream leads to the state `s` of stream `i`, up to the state of
the channel; its labels are those of the stream, and ticks. -/
structure Explains (T : Tonic) (answer : ℕ → Answer) (channel : ℕ → ℕ) (ls : List StreamsLabel)
    (p : Streams) (i : ℕ) (s r : Sys) : Prop where
  run : ∃ s₀ ls', Sys.Initial (answer i) s₀ ∧ Run (pgraph (Sys.step T (answer i))) s₀ ls' r
    ∧ ls'.filter isNotTick = ls.filterMap (own i)
  alike : ∃ c, p.view (channel i) s = r.setConnectivity c

/-- Every stream is explained, and at most one of them is inside a batch. -/
structure Explained (T : Tonic) (answer : ℕ → Answer) (channel : ℕ → ℕ) (ls : List StreamsLabel)
    (p : Streams) : Prop where
  unopened : ∀ i, p.streams i = none → ls.filterMap (own i) = []
  opened : ∀ i s, p.streams i = some s → ∃ r, Explains T answer channel ls p i s r
  alone : ∀ i s, p.streams i = some s → s.php.isBusy = true → p.Free i

variable {ls : List StreamsLabel} {i : ℕ} {s r : Sys}

/-- A step of something else, that changes at most the state of the channel. -/
theorem Explains.other (h : Explains T answer channel ls p i s r) (hl : own i l = none)
    (hv : ∃ c, p'.view (channel i) s = (p.view (channel i) s).setConnectivity c) :
    Explains T answer channel (ls ++ [l]) p' i s r := by
  obtain ⟨⟨s₀, ls', h₀, hrun, hls⟩, c, hc⟩ := h
  obtain ⟨c', hc'⟩ := hv
  refine ⟨⟨s₀, ls', h₀, hrun, ?_⟩, c', ?_⟩
  · rw [hls, List.filterMap_append, List.filterMap_cons_none hl, List.filterMap_nil,
      List.append_nil]
  · rw [hc', hc, Sys.setConnectivity_setConnectivity]

/-- A step of the stream. -/
theorem Explains.step (h : Explains T answer channel ls p i s r) {l : Label} {s' : Sys}
    (hl : ∀ t, l ≠ .tick t) (hstep : (p.view (channel i) s).step T (answer i) l = some s')
    (hnow : p'.now = p.now) (hconn : p'.connectivity (channel i) = s'.world.connectivity) :
    ∃ r', Explains T answer channel (ls ++ [.on i l]) p' i s' r' := by
  obtain ⟨⟨s₀, ls', h₀, hrun, hls⟩, c, hc⟩ := h
  rw [hc] at hstep
  obtain ⟨c', hc'⟩ := Sys.step_setConnectivity T (answer i) r c l
  obtain ⟨r', hr', rfl⟩ := Option.map_eq_some_iff.mp (hc'.symm.trans hstep)
  refine ⟨r', ⟨s₀, ls' ++ [l], h₀, hrun.snoc hr', ?_⟩, c', ?_⟩
  · have hkeep : isNotTick l = true := by
      cases l with
      | tick t => exact absurd rfl (hl t)
      | _ => rfl
    rw [List.filter_append, List.filterMap_append, hls]
    simp [own, hkeep]
  · have hr : r.now = p.now := congrArg Sys.now hc.symm
    have hs : r'.now = p'.now := ((Sys.step_now hr' hl).trans hr).trans hnow.symm
    rw [view, hconn, ← hs]
    rfl

/-- The clock moves for the stream too. -/
theorem Explains.tick (h : Explains T answer channel ls p i s r) {t : I64}
    (ht : p.now.val ≤ t.val) :
    ∃ r', Explains T answer channel (ls ++ [.tick t]) { p with now := t } i s r' := by
  obtain ⟨⟨s₀, ls', h₀, hrun, hls⟩, c, hc⟩ := h
  have hr : r.now = p.now := congrArg Sys.now hc.symm
  have hstep : pgraph (Sys.step T (answer i)) r (.tick t) { r with now := t } :=
    if_pos (by rw [hr]; exact ht)
  refine ⟨{ r with now := t }, ⟨s₀, ls' ++ [.tick t], h₀, hrun.snoc hstep, ?_⟩, c, ?_⟩
  · rw [List.filter_append, List.filterMap_append, hls]
    simp [own, isNotTick]
  · exact congrArg (fun s ↦ { s with now := t }) hc

/-- Only the PHP thread moves the PHP thread. -/
theorem php_of_step {answer : Answer} {s s' : Sys} {l : Label}
    (h : s.step T answer l = some s') (hl : l.isThread = false) : s'.php = s.php := by
  cases Sys.step_moves h with
  | begins | php | selects | turns | drops => cases hl
  | driver | pulls | abandons | ticks => rfl

theorem Explained.start (h : Explained T answer channel ls p) {j : ℕ} {bidi : Bool}
    {call : GrpcCall} {php : Thread} (hnone : p.streams j = none) (hfree : p.Free j)
    (hphp : php.Starts) (hfin : call.finished = false) :
    Explained T answer channel (ls ++ [.start j bidi call php])
      { p with
        streams := Function.update p.streams j
          (some (.spawn (answer j) bidi call (p.connectivity (channel j)) php p.now)) } where
  unopened i hi := by
    by_cases hij : i = j
    · subst hij
      simp only [Function.update_self] at hi
      cases hi
    · simp only [Function.update_of_ne hij] at hi
      simpa [own] using h.unopened i hi
  opened i s hi := by
    by_cases hij : i = j
    · subst hij
      simp only [Function.update_self] at hi
      obtain rfl := Option.some.inj hi
      refine ⟨_, ⟨_, [], .spawned hphp hfin, .nil, ?_⟩, p.connectivity (channel i), rfl⟩
      simp [own, h.unopened i hnone]
    · simp only [Function.update_of_ne hij] at hi
      obtain ⟨r, hr⟩ := h.opened i s hi
      exact ⟨r, hr.other rfl ⟨p.connectivity (channel i), rfl⟩⟩
  alone i s hi hbusy k s' hki hk := by
    by_cases hij : i = j
    · subst hij
      simp only [Function.update_of_ne hki] at hk
      exact hfree k s' hki hk
    · simp only [Function.update_of_ne hij] at hi
      rw [hfree i s hij hi] at hbusy
      cases hbusy

theorem Explained.on (h : Explained T answer channel ls p) {j : ℕ} {l : Label} {s s' : Sys}
    (hj : p.streams j = some s) (hl : ∀ t, l ≠ .tick t) (hfree : l.isThread = true → p.Free j)
    (hstep : (p.view (channel j) s).step T (answer j) l = some s') :
    Explained T answer channel (ls ++ [.on j l])
      { p with
        connectivity := Function.update p.connectivity (channel j) s'.world.connectivity
        streams := Function.update p.streams j (some s') } where
  unopened i hi := by
    by_cases hij : i = j
    · subst hij
      simp only [Function.update_self] at hi
      cases hi
    · simp only [Function.update_of_ne hij] at hi
      simpa [own, Ne.symm hij] using h.unopened i hi
  opened i t hi := by
    by_cases hij : i = j
    · subst hij
      simp only [Function.update_self] at hi
      obtain rfl := Option.some.inj hi
      obtain ⟨r, hr⟩ := h.opened i s hj
      exact hr.step hl hstep rfl (Function.update_self ..)
    · simp only [Function.update_of_ne hij] at hi
      obtain ⟨r, hr⟩ := h.opened i t hi
      exact ⟨r, hr.other (if_neg (Ne.symm hij)) ⟨_, rfl⟩⟩
  alone i t hi hbusy k t' hki hk := by
    -- a step that is not the thread's leaves the stream inside its batch, or outside
    have hphp : l.isThread = false → s'.php = (p.view (channel j) s).php := php_of_step hstep
    by_cases hij : i = j
    · subst hij
      simp only [Function.update_self] at hi
      obtain rfl := Option.some.inj hi
      simp only [Function.update_of_ne hki] at hk
      cases hth : l.isThread with
      | true => exact hfree hth k t' hki hk
      | false => exact h.alone i s hj (hphp hth ▸ hbusy) k t' hki hk
    · simp only [Function.update_of_ne hij] at hi
      have hothers := h.alone i t hi hbusy
      by_cases hkj : k = j
      · subst hkj
        simp only [Function.update_self] at hk
        obtain rfl := Option.some.inj hk
        cases hth : l.isThread with
        | true =>
            rw [hfree hth i t hij hi] at hbusy
            cases hbusy
        | false =>
            rw [hphp hth]
            exact hothers k s hki hj
      · simp only [Function.update_of_ne hkj] at hk
        exact hothers k t' hki hk

theorem Explained.step (h : Explained T answer channel ls p)
    (hs : p.Step T answer channel l p') : Explained T answer channel (ls ++ [l]) p' := by
  cases hs with
  | start hnone hfree hphp hfin => exact h.start hnone hfree hphp hfin
  | on hj hl hfree hstep => exact h.on hj hl hfree hstep
  | tick ht =>
      refine ⟨fun i hi ↦ ?_, fun i s hi ↦ ?_, h.alone⟩
      · simpa [own] using h.unopened i hi
      · obtain ⟨r, hr⟩ := h.opened i s hi
        exact hr.tick ht
  | setState =>
      refine ⟨fun i hi ↦ ?_, fun i s hi ↦ ?_, h.alone⟩
      · simpa [own] using h.unopened i hi
      · obtain ⟨r, hr⟩ := h.opened i s hi
        exact ⟨r, hr.other rfl ⟨_, rfl⟩⟩

end Streams

/-- **Streams do not interfere.**  In every interleaving of any number of streams on a thread,
at most one stream is inside a batch, and the state of each stream is one that a run of the
system of this stream alone leads to, with the same steps and up to the state of the channel.
The task of a stream has the same steps open to it there: it is never held up by another stream.
-/
theorem streams_of_run {T : Tonic} {answer : ℕ → Answer} {channel : ℕ → ℕ} {now : I64}
    {connectivity : ℕ → ChannelState} {ls : List StreamsLabel} {p : Streams}
    (h : Run (Streams.Step T answer channel) ⟨now, connectivity, fun _ ↦ none⟩ ls p) :
    (∀ i j s t, p.streams i = some s → p.streams j = some t →
        s.php.isBusy = true → t.php.isBusy = true → i = j)
      ∧ ∀ i s, p.streams i = some s → ∃ r, Streams.Explains T answer channel ls p i s r
        ∧ ∀ a, (∃ p', p.Step T answer channel (.on i (.driver a)) p')
          ↔ (r.step T (answer i) (.driver a)).isSome = true := by
  have hexp : Streams.Explained T answer channel ls p := by
    refine h.invariant (I := Streams.Explained T answer channel) ⟨fun _ _ ↦ rfl, ?_, ?_⟩
      fun _ _ _ _ hI hs ↦ hI.step hs
    · rintro i s ⟨⟩
    · rintro i s ⟨⟩
  constructor
  · intro i j s t hi hj hs ht
    by_contra hij
    rw [hexp.alone i s hi hs j t (Ne.symm hij) hj] at ht
    cases ht
  · intro i s hi
    obtain ⟨r, hr⟩ := hexp.opened i s hi
    refine ⟨r, hr, fun a ↦ ?_⟩
    obtain ⟨c, hc⟩ := hr.alike
    obtain ⟨c', hc'⟩ := Sys.step_setConnectivity T (answer i) r c (.driver a)
    rw [← hc] at hc'
    constructor
    · rintro ⟨p', hp'⟩
      cases hp' with
      | on hs _ _ hstep =>
          obtain rfl := Option.some.inj (hs.symm.trans hi)
          obtain ⟨r', hr', -⟩ := Option.map_eq_some_iff.mp (hc'.symm.trans hstep)
          rw [hr']
          rfl
    · intro hsome
      obtain ⟨r', hr'⟩ := Option.isSome_iff_exists.mp hsome
      rw [hr'] at hc'
      exact ⟨_, .on hi (fun t ht ↦ by cases ht) (fun ht ↦ by cases ht) hc'⟩

/-- While a write waits on a second stream of the channel, the task of the first goes on. -/
theorem streams_of_run_two :
    let answer : ℕ → Answer := fun _ ↦ .response ⟨[], [[1]], .clean (.ok none)⟩
    let call : GrpcCall := { method := "/s/m", deadlineUsec := .max, callPlugin := none }
    let write : Thread :=
      .sending ⟨[messageOp [1]], { sendMessage := some [1], hasSendOps := true }⟩ [1]
    let ls : List StreamsLabel :=
      [.start 0 false call .idle, .start 1 true call write, .on 0 (.driver .proceed)]
    ∃ p s r, Run (Streams.Step Tonic.ascii answer fun _ ↦ 0)
        ⟨.one, fun _ ↦ .idle, fun _ ↦ none⟩ ls p
      ∧ p.streams 0 = some s ∧ Streams.Explains Tonic.ascii answer (fun _ ↦ 0) ls p 0 s r
      ∧ ((∃ p', p.Step Tonic.ascii answer (fun _ ↦ 0) (.on 0 (.driver .ready)) p')
        ↔ (r.step Tonic.ascii (answer 0) (.driver .ready)).isSome = true) := by
  intro answer call write ls
  let R := Streams.Step Tonic.ascii answer fun _ ↦ 0
  let first : Sys := .spawn (answer 0) false call .idle .idle .one
  let second : Sys := .spawn (answer 1) true call .idle write .one
  let p₀ : Streams := ⟨.one, fun _ ↦ .idle, fun _ ↦ none⟩
  let p₁ : Streams := { p₀ with streams := Function.update p₀.streams 0 (some first) }
  let p₂ : Streams := { p₁ with streams := Function.update p₁.streams 1 (some second) }
  have h₁ : R p₀ (.start 0 false call .idle) p₁ := .start rfl (by rintro j s - ⟨⟩) trivial rfl
  have h₂ : R p₁ (.start 1 true call write) p₂ := by
    refine .start rfl (fun j s _ hs ↦ ?_) trivial rfl
    by_cases hj : j = 0
    · subst hj
      cases hs
      rfl
    · simp only [p₁, p₀, Function.update_of_ne hj] at hs
      cases hs
  have h₃ : R p₂ (.on 0 (.driver .proceed)) _ :=
    .on (s := first) rfl (by rintro t ⟨⟩) (by rintro ⟨⟩) rfl
  have hrun : Run R p₀ ls _ := (Run.single h₁).append ((Run.single h₂).append (Run.single h₃))
  obtain ⟨r, hr, hsteps⟩ := (streams_of_run hrun).2 0 _ rfl
  exact ⟨_, _, r, hrun, rfl, hr, hsteps .ready⟩

end GrpcPhp
