import GrpcPhp.Call.Compute
import GrpcPhp.Stream.Step

/-!
# A batch as a single step

`GrpcPhp/Call` executes a batch in one step and takes what the channels yield from an
environment; the system of this directory goes through the same batch statement by
statement while the task runs beside it.  The two see the same call: between batches, a
state of the system is a world of the call that some environments lead to.

The simulation is by prophecy.  While a batch is in progress, the call-level world is
still the one before the batch, and `Sys.rush` says what the batch would end in if the
rest of it were executed at once with the answers of a given environment.  The statements
of the PHP thread take such answers from the channels one after the other, so that the
outcomes that are left become fewer; at the end the one that is left is a single step.
-/

namespace GrpcPhp

open Lib Php

variable {T : Tonic} {answer : Answer}

/-! ## The rest of a batch -/

/-- The batch in progress. -/
def Thread.batch : Thread → Option Batch
  | .idle | .gone => none
  | .sending j _ | .headers j _ | .message j _ | .waiting j _ | .status j _ | .draining j _
  | .trailing j _ => some j

/-- The action of the call that another method of PHP is. -/
def Aside.action : Aside → Action
  | .cancel => .cancel
  | .closeChannel => .closeChannel
  | .setCredentials plugin => .setCredentials plugin

namespace Sys

/-- What the system ends in when the rest of the batch in progress is executed at once, with
the answers of `env`. -/
def rush (T : Tonic) (env : Env) (s : Sys) : World :=
  match s.php with
  | .idle | .gone => s.world.setStream s.stream
  | .sending j m =>
      if env.sendOk then (s.world.emit (.message m)).conclude j.ops j.parsed
        (exchange T env s.world.call.deadlineUsec j.parsed s.stream)
      else (s.world.setStream s.stream).emit (.raised (.default "stream send channel closed"))
  | .headers j r => s.world.conclude j.ops j.parsed
      (statusStage T env.trailers j.parsed
        (messageStage T s.world.call.deadlineUsec env.nowStatus env.item j.parsed
          (headersStage T env.headers j.parsed (r, s.stream))))
  | .message j r | .waiting j r => s.world.conclude j.ops j.parsed
      (statusStage T env.trailers j.parsed
        (messageStage T s.world.call.deadlineUsec env.nowStatus env.item j.parsed (r, s.stream)))
  | .status j r | .draining j r | .trailing j r => s.world.conclude j.ops j.parsed
      (statusStage T env.trailers j.parsed (r, s.stream))

variable {s s' : Sys} {env : Env} {j : Batch} {r : BatchResult} {l : Label}

theorem rush_idle (h : s.php = .idle) : s.rush T env = s.world.setStream s.stream := by
  simp only [rush, h]

theorem rush_afterSend (s : Sys) (j : Batch) : (s.afterSend j).rush T env
    = s.world.conclude j.ops j.parsed
        (exchange T env s.world.call.deadlineUsec j.parsed s.stream) := by
  unfold afterSend exchange
  dsimp only
  split
  · rfl
  · rfl

theorem afterSend_batch (s : Sys) (j : Batch) :
    (s.afterSend j).php.batch = some j ∨ (s.afterSend j).php = .idle := by
  rcases s.afterSend_php j with h | h
  · exact .inl (by rw [h]; rfl)
  · exact .inr h

/-- **The PHP thread narrows down how the batch can end**: after one of its statements, each
ending that is left was one before. -/
theorem Advances.rush_eq (ha : s.Advances T s') (env : Env) :
    ∃ env', s'.rush T env = s.rush T env' := by
  cases ha with
  | sendFailed hp => exact ⟨{ env with sendOk := false }, by simp only [rush, hp]; rfl⟩
  | sent hp =>
      refine ⟨{ env with sendOk := true }, ?_⟩
      rw [rush_afterSend]
      simp only [rush, hp, if_true]
      rfl
  | awaited hp => exact ⟨{ env with headers := s.task.headers }, by simp only [rush, hp]; rfl⟩
  | notAwaited hp => exact ⟨{ env with headers := none }, by simp only [rush, hp]; rfl⟩
  | @received _ _ item _ hp | @woken _ _ item _ hp =>
      exact ⟨{ env with item, nowStatus := s.now }, by simp only [rush, hp]; rfl⟩
  | noMessage hp =>
      exact ⟨{ env with item := none, nowStatus := s.now }, by simp only [rush, hp]; rfl⟩
  | empty hp | drains hp | discarded hp | drained hp => exact ⟨env, by simp only [rush, hp]⟩
  | noDrain hp => exact ⟨{ env with trailers := none }, by simp only [rush, hp]; rfl⟩
  | trailers hp =>
      refine ⟨{ env with trailers := s.task.trailers }, ?_⟩
      obtain hp | hp := hp <;> simp only [rush, hp] <;> rfl

/-- The PHP thread advances inside a batch, and stays in it or returns from it. -/
theorem Advances.batch_cases (ha : s.Advances T s') :
    ∃ j, s.php.batch = some j ∧ (s'.php.batch = some j ∨ s'.php = .idle) := by
  cases ha with
  | sendFailed hp => exact ⟨_, by rw [hp]; rfl, .inr rfl⟩
  | @sent j m hp =>
      exact ⟨j, by rw [hp]; rfl, afterSend_batch _ _⟩
  | noDrain hp => exact ⟨_, by rw [hp]; rfl, .inr rfl⟩
  | trailers hp => obtain hp | hp := hp <;> exact ⟨_, by rw [hp]; rfl, .inr rfl⟩
  | @discarded j r _ _ hp => exact ⟨j, by rw [hp]; rfl, .inl (by rw [hp]; rfl)⟩
  | awaited hp | notAwaited hp | received hp | woken hp | noMessage hp | empty hp | drains hp
  | drained hp => exact ⟨_, by rw [hp]; rfl, .inl rfl⟩

/-- The call object is there after each statement. -/
theorem Advances.isGone_eq (ha : s.Advances T s') : s'.isGone = false := by
  obtain ⟨j, -, hb | hidle⟩ := ha.batch_cases
  · unfold isGone
    split
    · next hp => rw [hp] at hb; cases hb
    · rfl
  · simp [isGone, hidle]

end Sys

/-! ## The two views of a call -/

/-- The world `w` has the call of `v`, and a log that continues `pre` by the log of `v`.  The
state of the channel may differ: the task records it when the call is answered. -/
structure World.Continues (pre : List Event) (v w : World) : Prop where
  call : w.call = v.call
  log : w.log = pre ++ v.log

namespace World.Continues

variable {pre : List Event} {v w : World}

theorem emit (h : Continues pre v w) (e : Event) : Continues pre (v.emit e) (w.emit e) :=
  ⟨h.call, by simp [World.emit, h.log]⟩

theorem mapCall (h : Continues pre v w) (f : GrpcCall → GrpcCall) :
    Continues pre (v.mapCall f) (w.mapCall f) := ⟨congrArg f h.call, h.log⟩

theorem setStream (h : Continues pre v w) (st : ActiveStream) :
    Continues pre (v.setStream st) (w.setStream st) :=
  h.mapCall fun c ↦ { c with streamState := some st }

theorem conclude (h : Continues pre v w) (ops : ZendHashTable) (b : BatchOps)
    (p : BatchResult × ActiveStream) : Continues pre (v.conclude ops b p) (w.conclude ops b p) :=
  ((h.setStream p.2).mapCall _).emit _

end World.Continues

namespace Sys

variable {s s' : Sys} {env : Env} {l : Label} {pre : List Event} {w : World}

/-- The state is one that the world `w` explains: the world itself between batches, and each
way in which the batch in progress can end by one step from `w`. -/
def Explained (T : Tonic) (pre : List Event) (s : Sys) (w : World) : Prop :=
  match s.php.batch with
  | none => World.Continues pre (s.world.setStream s.stream) w
  | some j => ∀ env, ∃ env',
      World.Continues pre (s.rush T env) (GrpcPhp.step T w (.startBatch env' j.ops))

/-- What is left of a batch does not depend on the state of the channel. -/
theorem rush_continues {v : World} (h : World.Continues pre s.world v) (env : Env) :
    World.Continues pre (s.rush T env) ({ s with world := v }.rush T env) := by
  simp only [rush, h.call]
  cases s.php with
  | idle => exact h.setStream _
  | gone => exact h.setStream _
  | sending j m =>
      dsimp only
      split
      · exact (h.emit _).conclude _ _ _
      · exact (h.setStream _).emit _
  | _ => exact h.conclude _ _ _

/-- Steps that neither the call nor the PHP thread sees. -/
theorem Explained.same (h : s.Explained T pre w) (hphp : s'.php = s.php)
    (hstream : s'.stream = s.stream) (hcall : s'.world.call = s.world.call)
    (hlog : s'.world.log = s.world.log) : s'.Explained T pre w := by
  have hrush (env : Env) : World.Continues [] (s'.rush T env) (s.rush T env) := by
    have : s.rush T env = { s' with world := s.world }.rush T env := by
      simp only [rush, hphp, hstream]
    have hw : World.Continues [] s'.world s.world := ⟨hcall.symm, hlog.symm⟩
    rw [this]
    exact rush_continues hw env
  unfold Explained at h ⊢
  rw [hphp]
  cases hb : s.php.batch with
  | none =>
      rw [hb] at h
      exact ⟨h.call.trans (by simp [hcall, hstream]), h.log.trans (by simp [World.setStream, hlog])⟩
  | some j =>
      rw [hb] at h
      intro env
      obtain ⟨env', he⟩ := h env
      exact ⟨env', he.call.trans (hrush env).call, he.log.trans (congrArg _ (hrush env).log)⟩

/-- Some run from `w` explains the state. -/
def Simulated (T : Tonic) (pre : List Event) (s : Sys) (w : World) : Prop :=
  ∃ acts w', Run (graph (GrpcPhp.step T)) w acts w' ∧ s.Explained T pre w'

/-- If every way in which the batch can end is a step, the batch goes on, or it is over and
was that step. -/
theorem simulated_of_rush (ops : ZendHashTable)
    (h : ∀ env, ∃ env',
      World.Continues pre (s.rush T env) (GrpcPhp.step T w (.startBatch env' ops)))
    (hb : (∃ j, s.php.batch = some j ∧ j.ops = ops) ∨ s.php = .idle) : s.Simulated T pre w := by
  obtain ⟨j, hb, rfl⟩ | hidle := hb
  · refine ⟨[], w, .nil, ?_⟩
    simpa only [Explained, hb] using h
  · obtain ⟨env', he⟩ := h .calm
    refine ⟨[.startBatch env' ops], _, .single rfl, ?_⟩
    rw [rush_idle hidle] at he
    simpa only [Explained, hidle, Thread.batch] using he

/-- A statement of the PHP thread. -/
theorem Explained.advances (h : s.Explained T pre w) (ha : s.Advances T s') :
    s'.Simulated T pre w := by
  obtain ⟨j, hb, hb'⟩ := ha.batch_cases
  simp only [Explained, hb] at h
  refine simulated_of_rush j.ops (fun env ↦ ?_) (hb'.imp_left fun hb' ↦ ⟨j, hb', rfl⟩)
  obtain ⟨env', he⟩ := ha.rush_eq env
  rw [he]
  exact h env'

/-- The start of a batch. -/
theorem Explained.enters {ops : ZendHashTable} (h : s.Explained T pre w) (hp : s.php = .idle)
    (he : s.Enters ops s') : s'.Simulated T pre w := by
  simp only [Explained, hp, Thread.batch] at h
  have hst : w.call.streamState = some s.stream := by rw [h.call]; rfl
  have hdl : w.call.deadlineUsec = s.world.call.deadlineUsec := by rw [h.call]; rfl
  have hadm : admission w.call ops = admission s.world.call ops := by rw [h.call]; rfl
  have admitted {b : BatchOps} (ha : Admitted s.world.call ops b) : Admitted w.call ops b :=
    admission_some (hadm.trans ha.admission_eq)
  cases he with
  | refused he =>
      refine simulated_of_rush ops (fun env ↦ ⟨env, ?_⟩) (.inr rfl)
      rw [step_of_rejected (hadm.trans he)]
      exact h.emit _
  | empty he =>
      refine simulated_of_rush ops (fun env ↦ ⟨env, ?_⟩) (.inr hp)
      rw [step_of_empty (hadm.trans he)]
      simp only [rush, hp]
      exact h.emit _
  -- a batch on an open stream finds the runtime that started it
  | @noSender b m ha hm ht =>
      refine simulated_of_rush ops (fun env ↦ ⟨{ env with runtime := .ok () }, ?_⟩) (.inr rfl)
      rw [step_active_raised (admitted ha) hst hm (sendStreamMessage_noSender hst ht rfl)]
      exact (h.mapCall (·.accept b)).emit _
  | @sends b m ha hm ht =>
      refine simulated_of_rush ops (fun env ↦ ⟨{ env with runtime := .ok () }, ?_⟩)
        (.inl ⟨_, rfl, rfl⟩)
      simp only [rush]
      cases hok : env.sendOk with
      | true =>
          rw [step_active (admitted ha) hst (fun _ _ ↦ ⟨ht, rfl⟩) rfl, hm, hdl]
          exact ((h.mapCall (·.accept b)).emit (.message m)).conclude _ _ _
      | false =>
          rw [step_active_raised (admitted ha) hst hm (sendStreamMessage_closed hst ht rfl rfl)]
          exact (h.mapCall (·.accept b)).emit _
  | @passes b ha hm =>
      refine simulated_of_rush ops (fun env ↦ ⟨{ env with runtime := .ok () }, ?_⟩) ?_
      · rw [rush_afterSend, step_active (admitted ha) hst (by simp [hm]) rfl, hm, hdl]
        exact (h.mapCall (·.accept b)).conclude _ _ _
      · exact (afterSend_batch _ _).imp_left fun hb ↦ ⟨_, hb, rfl⟩

theorem Explained.moves (h : s.Explained T pre w) (hm : s.Moves T answer l s') :
    s'.Simulated T pre w := by
  cases hm with
  | begins hp he => exact h.enters hp he
  | php ha => exact h.advances ha
  | selects _ ha => exact h.advances ha
  | @turns a hp =>
      refine ⟨[a.action], _, .single rfl, ?_⟩
      simp only [Explained, hp, Thread.batch] at h ⊢
      have hmap := h.mapCall a.update
      cases a with
      | cancel => exact hmap
      | closeChannel => exact hmap
      | setCredentials => exact hmap
  | drops hp =>
      refine ⟨[], w, .nil, ?_⟩
      simpa only [Explained, hp, Thread.batch] using h
  | driver | pulls | abandons | ticks => exact ⟨[], w, .nil, h.same rfl rfl rfl rfl⟩

/-- **A run of the system is a run of the call**: what the call object and the log show
between batches is what executing each batch in one step would have left, for some answers
of the outside. -/
theorem simulated_of_run {s₀ : Sys} {ls : List Label} (h₀ : s₀.Explained T pre w)
    (h : Run (pgraph (step T answer)) s₀ ls s) : s.Simulated T pre w :=
  h.simulates h₀ fun _ _ _ _ hs hm ↦ hs.moves (step_moves hm)

/-- Executing the rest of a batch adds to the log. -/
theorem log_isPrefix_rush (s : Sys) : s.world.log <+: (s.rush T env).log := by
  unfold rush
  split
  · exact List.prefix_rfl
  · exact List.prefix_rfl
  · split
    · exact (List.prefix_append _ _).trans (List.prefix_append _ _)
    · exact List.prefix_append _ _
  all_goals exact List.prefix_append _ _

/-- **What the system logs, the call can log**: whatever is true of the log of every run of the
call is true of the log of the system. -/
theorem log_of_run {s₀ : Sys} {ls : List Label} (h₀ : s₀.Explained T pre w)
    (h : Run (pgraph (step T answer)) s₀ ls s) :
    ∃ acts w', Run (graph (GrpcPhp.step T)) w acts w' ∧ pre ++ s.world.log <+: w'.log := by
  obtain ⟨acts, w', hrun, he⟩ := simulated_of_run h₀ h
  unfold Explained at he
  cases hb : s.php.batch with
  | none =>
      rw [hb] at he
      exact ⟨acts, w', hrun, he.log ▸ List.prefix_rfl⟩
  | some j =>
      -- the batch in progress can still return
      rw [hb] at he
      obtain ⟨env, he⟩ := he .calm
      refine ⟨acts ++ [.startBatch env j.ops], _, hrun.snoc rfl, ?_⟩
      rw [he.log]
      exact (List.prefix_append_right_inj pre).mpr s.log_isPrefix_rush

/-! ## Where the runs start -/

/-- A stream whose batch has returned. -/
theorem explained_idle {bidi : Bool} {now : I64}
    (hst : w.call.streamState = some (spawnedStreamState bidi)) :
    (Sys.spawn answer bidi w.call w.connectivity .idle now).Explained T w.log w :=
  ⟨by rw [← World.setStream_of_streamState hst]; rfl, (List.append_nil _).symm⟩

/-- The first write of a client or bidi stream, once the task has been spawned: the message is
still to be sent. -/
theorem explained_write {ops : ZendHashTable} {b : BatchOps} {m : Bytes} {ps : Pairs}
    {v : World} {now : I64} (ha : Admitted w.call ops b) (hst : w.call.streamState = none)
    (hrecv : b.hasRecvOps = false) (hclose : b.sendClose = false) (hm : b.sendMessage = some m)
    (hp : PluginRan env (w.mapCall (·.accept b)).takePendingMetadata (.ok ps) v)
    (hx : deadlineAlreadyExpired v.call.deadlineUsec env.nowDispatch = false)
    (hpath : T.path v.call.method = .ok ()) (hrt : env.runtime = .ok ()) :
    (Sys.spawn answer true v.call v.connectivity (.sending ⟨ops, b⟩ m) now).Explained T
      (v.log ++ [.dispatch (bidiRpc T env w.call.pendingMetadata ps v.call.deadlineUsec)]) w := by
  intro env'
  have hsend : b.hasSendOps = true := by simpa [hrecv] using ha.hasOps
  have hd (ok : Bool) := dispatchBatch_write (w := w.mapCall (·.accept b)) hst hrecv hsend hclose hm
    (hp.of_plugin { env with sendOk := ok } rfl) (.spawned hx hpath hrt)
  have hw : World.Continues (v.log ++ [.dispatch (bidiRpc T env w.call.pendingMetadata ps
      v.call.deadlineUsec)]) ({ call := v.call, connectivity := v.connectivity : World }.setStream
        (spawnedStreamState true)) ((v.emit (.dispatch (bidiRpc T env w.call.pendingMetadata ps
          v.call.deadlineUsec))).setStream (spawnedStreamState true)) :=
    ⟨rfl, (List.append_nil _).symm⟩
  simp only [rush, Sys.spawn]
  cases hok : env'.sendOk with
  | true =>
      refine ⟨{ env with sendOk := true }, ?_⟩
      rw [step_of_dispatch_ok ha ((hd true).trans (Fallible.bind_ok
        (sendStreamMessage_ok rfl rfl rfl hrt)))]
      simp only [if_true, exchange, hrecv, hclose, Bool.false_eq_true, if_false, Bool.not_false,
        Bool.and_true]
      exact ((hw.emit (.message m)).mapCall (·.finish b)).emit _
  | false =>
      refine ⟨{ env with sendOk := false }, ?_⟩
      rw [step_of_dispatch_error ha ((hd false).trans (Fallible.bind_error
        (sendStreamMessage_closed rfl rfl rfl hrt)))]
      exact hw.emit _

/-- A receive batch that starts a server stream, once the task has been spawned: everything is
still to be received. -/
theorem explained_read {ops : ZendHashTable} {b : BatchOps} {md ps : Pairs} {msg : Option Bytes}
    {v : World} {now : I64} (ha : Admitted w.call ops b) (hst : w.call.streamState = none)
    (hrecv : b.hasRecvOps = true) (hq : Requested env b (w.mapCall (·.accept b)) md ps msg v)
    (hpat : (b.recvMessage && b.recvStatus) = false) (hclosed : (w.call.accept b).sendClosed = true)
    (hx : deadlineAlreadyExpired v.call.deadlineUsec env.nowDispatch = false)
    (hpath : T.path v.call.method = .ok ()) (hrt : env.runtime = .ok ()) :
    (Sys.spawn answer false v.call v.connectivity (.headers ⟨ops, b⟩ {}) now).Explained T
      (v.log ++ [.dispatch (serverRpc T env md ps msg v.call.deadlineUsec)]) w := by
  intro env'
  -- what the batch receives is that of `env'`, and the rest is as when it started the stream
  let e : Env := { env with
    nowStatus := env'.nowStatus, headers := env'.headers, item := env'.item
    trailers := env'.trailers }
  have hd := dispatchBatch_read (w := w.mapCall (·.accept b)) hst hrecv
    (hq.of_plugin e rfl) hpat hclosed (.spawned hx hpath hrt) rfl
  refine ⟨e, ?_⟩
  rw [step_of_dispatch_ok ha hd]
  have hw : World.Continues (v.log ++ [.dispatch (serverRpc T env md ps msg v.call.deadlineUsec)])
      { call := v.call, connectivity := v.connectivity : World }
      (v.emit (.dispatch (serverRpc T env md ps msg v.call.deadlineUsec))) :=
    ⟨rfl, (List.append_nil _).symm⟩
  exact hw.conclude _ _ _

end Sys

end GrpcPhp
