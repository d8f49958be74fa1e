import GrpcPhp.Call.Step

/-!
# How many RPCs a call makes

A call is meant to make one RPC: once a stream is open every batch uses it, and once a
status has been delivered no batch is accepted.  Both are traces the dispatch leaves in
the state.  The unary fallback of CASE 3 leaves neither when the batch does not receive
the status, so a second batch of the same kind runs a second RPC.

`Tracked` is the condition that the fallback is not taken in this way, and
`rpcs_length_le_one` the result: a call whose batches are all tracked makes at most one
RPC, whatever the server, the plugin and the clock do and wherever cancellations and
changes of credentials fall.  `untracked_batches_rerun` is the run that breaks it.
-/

namespace GrpcPhp

open Lib Php

variable {T : Tonic} {env : Env}

/-! ## What the stages do to the RPCs -/

/-- From `w` to `w'` at most one RPC was made, and if one was made then `P`. -/
def OneMore (w w' : World) (P : Prop) : Prop :=
  w'.rpcs = w.rpcs ∨ (∃ rpc, w'.rpcs = w.rpcs ++ [rpc]) ∧ P

theorem OneMore.imp {w w' : World} {P Q : Prop} (h : OneMore w w' P) (hPQ : P → Q) :
    OneMore w w' Q := h.imp_right fun ⟨hr, hP⟩ ↦ ⟨hr, hPQ hP⟩

/-- Only the RPC lists of the two worlds matter. -/
theorem OneMore.congr {v v' w w' : World} {P : Prop} (h : OneMore v v' P)
    (hv : v.rpcs = w.rpcs) (hv' : v'.rpcs = w'.rpcs) : OneMore w w' P := by
  unfold OneMore at *
  rwa [hv, hv'] at h

theorem PluginRan.rpcs_eq {w w' : World} {r : Except PhpException Pairs}
    (h : PluginRan env w r w') : w'.rpcs = w.rpcs := h.observe_eq fun _ ↦ rfl

theorem Requested.rpcs_eq {b : BatchOps} {w w' : World} {md ps : Pairs} {msg : Option Bytes}
    (h : Requested env b w md ps msg w') : w'.rpcs = w.rpcs := h.observe_eq fun _ ↦ rfl

theorem Forwarded.rpcs_eq {msg : Option Bytes} {close : Bool} {w w' : World}
    (h : Forwarded env msg close w (.ok ()) w') : w'.rpcs = w.rpcs := by
  have hr := h.observe_eq (f := Event.rpcs)
  cases msg <;> simpa using hr

theorem Sent.rpcs_eq {m : Bytes} {w w' : World} {r : Except PhpException Unit}
    (h : Sent env m w r w') : w'.rpcs = w.rpcs := h.observe_eq fun _ ↦ rfl

/-- A started stream is in the state, whether or not an RPC was made. -/
theorem Started.oneMore {bidi : Bool} {rpc : I64 → Rpc} {w w' : World}
    {r : Except PhpException Unit} (h : Started T env bidi rpc w r w') :
    OneMore w w' (w'.call.streamState.isSome = true) := by
  cases h with
  | noRuntime => exact .inl rfl
  | expired => exact .inl rfl
  | badPath => exact .inl rfl
  | spawned => exact .inr ⟨⟨rpc w.call.deadlineUsec, by simp⟩, rfl⟩

/-- A unary call that made its RPC either returned or was cancelled. -/
theorem Executed.oneMore {md ps : Pairs} {msg : Option Bytes} {w w' : World}
    {r : Except PhpException CallResult} (h : Executed T env md ps msg w r w') :
    OneMore w w' (w'.call.cancelToken = true ∨ ∃ res, r = .ok res) := by
  cases h with
  | noRuntime => exact .inl rfl
  | expired => exact .inl rfl
  | badPath => exact .inl (by simp)
  | raced hx hp =>
      cases hd : env.unary.dispatched with
      | false => exact .inl (by simp [UnaryOutcome.observe_effect, hd])
      | true =>
          refine .inr ⟨⟨.unary (buildRequest T env md ps (msg.getD []) w.call.deadlineUsec),
            by simp [UnaryOutcome.observe_effect, hd]⟩, ?_⟩
          rw [World.recordOutcome_call]
          cases ho : env.unary with
          | readyError text => simp [ho, UnaryOutcome.dispatched] at hd
          | readyElapsed => simp [ho, UnaryOutcome.dispatched] at hd
          | cancelled => exact .inl rfl
          | deadline => exact .inr ⟨_, rfl⟩
          | response md body => exact .inr ⟨_, rfl⟩
          | status st => exact .inr ⟨_, rfl⟩

/-! ## What a dispatch does to the RPCs -/

/-- On an active stream a dispatch makes no RPC, and the stream stays. -/
theorem Dispatched.active_rpcs {b : BatchOps} {w w' : World} {st : ActiveStream}
    {r : Except PhpException BatchResult} (h : Dispatched T env b w r w')
    (hst : w.call.streamState = some st) :
    w'.rpcs = w.rpcs ∧ w'.call.streamState.isSome = true := by
  cases h with
  | notForwarded => exact ⟨rfl, by simp [hst]⟩
  | forwarded _ _ hf =>
      refine ⟨hf.rpcs_eq, ?_⟩
      cases hf with | done _ => rw [World.forwarded_streamState _ _ hst]; rfl
  | read _ _ hf _ => exact ⟨by simpa using hf.rpcs_eq, rfl⟩
  | notRead =>
      refine ⟨World.observe_forwarded_none _, ?_⟩
      rw [World.forwarded_streamState none _ hst]
      rfl
  | writePluginFailed h | writeNotStarted h | write h | bufferPluginFailed h | buffered h | split h
  | freshPluginFailed h | unary h | serverNotStarted h | server h => simp [hst] at h

/-- The trace an RPC leaves: an active stream, a fired token, or a returned unary call,
and the last only through one of the two unary patterns. -/
def Trace (b : BatchOps) (w : World) (r : Except PhpException BatchResult) (w' : World) : Prop :=
  w'.call.streamState.isSome = true ∨ w'.call.cancelToken = true ∨
    (∃ res, r = .ok res) ∧ b.hasRecvOps = true ∧
      ((b.recvMessage && b.recvStatus) = true ∨ w.call.sendClosed = false)

/-- Without an active stream a dispatch makes at most one RPC, and leaves a trace of
it. -/
theorem Dispatched.fresh_rpcs {b : BatchOps} {w w' : World}
    {r : Except PhpException BatchResult} (h : Dispatched T env b w r w')
    (hst : w.call.streamState = none) : OneMore w w' (Trace b w r w') := by
  cases h with
  | notForwarded h | forwarded h | read h | notRead h => simp [hst] at h
  | writePluginFailed _ _ _ _ hp => exact .inl hp.rpcs_eq
  | writeNotStarted _ _ _ _ hp hs =>
      exact (hs.oneMore.congr hp.rpcs_eq rfl).imp .inl
  | write _ _ _ _ hp hs hsent =>
      refine (hs.oneMore.congr hp.rpcs_eq hsent.rpcs_eq.symm).imp fun h ↦ .inl ?_
      rw [hsent.call_eq]
      exact h
  | bufferPluginFailed _ _ _ hp => exact .inl hp.rpcs_eq
  | buffered _ _ _ _ hp => exact .inl hp.rpcs_eq
  | split _ _ _ hp hs => exact (hs.oneMore.congr hp.rpcs_eq rfl).imp .inl
  | freshPluginFailed _ _ _ hp => exact .inl hp.rpcs_eq
  | unary _ hrecv hq hpat he =>
      refine (he.oneMore.congr hq.rpcs_eq rfl).imp ?_
      rintro (hc | ⟨res, rfl⟩)
      · exact .inr (.inl hc)
      · exact .inr (.inr ⟨⟨_, rfl⟩, hrecv, hpat⟩)
  | serverNotStarted _ _ hq _ _ hs => exact (hs.oneMore.congr hq.rpcs_eq rfl).imp .inl
  | server _ _ hq _ _ hs _ =>
      exact (hs.oneMore.congr hq.rpcs_eq rfl).imp fun _ ↦ .inl rfl

/-! ## The invariant -/

/-- A batch is *tracked* if it does not take the unary fallback without receiving the
status: receive operations without `RECV_STATUS` come with an active stream or after
(or with) the close.  A batch that is refused is. -/
def Tracked (w : World) : Action → Prop
  | .startBatch _ ops => ∀ b ∈ admitted w.call ops, w.call.streamState = none →
      b.hasRecvOps = true → b.recvStatus = false → w.call.sendClosed = true ∨ b.sendClose = true
  | _ => True

instance (w : World) (a : Action) : Decidable (Tracked w a) := match a with
  | .startBatch _ ops => inferInstanceAs (Decidable (∀ b ∈ admitted w.call ops, _))
  | .setCredentials _ | .cancel | .closeChannel => .isTrue trivial

/-- A call makes one RPC, and has nothing left to dispatch once it has. -/
structure SingleRpc (w : World) : Prop where
  le_one : w.rpcs.length ≤ 1
  spent : w.rpcs ≠ [] →
    w.call.streamState.isSome = true ∨ w.call.finished = true ∨ w.call.cancelToken = true

/-- A dispatch of a tracked batch keeps the invariant, where a status that was received
counts as finished. -/
theorem Dispatched.singleRpc {ops : ZendHashTable} {b : BatchOps} {w w' : World}
    {r : Except PhpException BatchResult} (hw : SingleRpc w) (ha : Admitted w.call ops b)
    (ht : Tracked w (.startBatch env ops))
    (h : Dispatched T env b (w.mapCall (·.accept b)) r w') :
    w'.rpcs.length ≤ 1 ∧ (w'.rpcs ≠ [] → w'.call.streamState.isSome = true
      ∨ ((∃ res, r = .ok res) ∧ b.recvStatus = true) ∨ w'.call.cancelToken = true) := by
  cases hst : w.call.streamState with
  | some st =>
      obtain ⟨hr, hs⟩ := h.active_rpcs (by simpa using hst)
      rw [hr]
      exact ⟨hw.le_one, fun _ ↦ .inl hs⟩
  | none =>
      -- nothing was dispatched before, or the batch would not have been admitted
      have hnil : w.rpcs = [] := by
        by_contra hne
        rcases hw.spent hne with hs | hf | hc
        · simp [hst] at hs
        · simp [ha.notFinished] at hf
        · simp [ha.notCancelled] at hc
      rcases h.fresh_rpcs (by simpa using hst) with hr | ⟨⟨rpc, hr⟩, htr⟩
      · rw [hr]
        simp [hnil]
      · rw [hr]
        refine ⟨by simp [hnil], fun _ ↦ ?_⟩
        rcases htr with hs | hc | ⟨hok, hrecv, hpat⟩
        · exact .inl hs
        · exact .inr (.inr hc)
        · refine .inr (.inl ⟨hok, ?_⟩)
          by_contra hrs
          have hrs : b.recvStatus = false := by simpa using hrs
          have hclosed := ht b ha.mem_admitted hst hrecv hrs
          rcases hpat with hp | hp
          · simp [hrs] at hp
          · simp only [World.mapCall_call, GrpcCall.accept_sendClosed, Bool.or_eq_false_iff] at hp
            rcases hclosed with h | h
            · simp [hp.1] at h
            · simp [hp.2] at h

/-- Every tracked step keeps the invariant. -/
theorem step_singleRpc {w : World} {a : Action} (hw : SingleRpc w) (ht : Tracked w a) :
    SingleRpc (step T w a) := by
  cases a with
  | setCredentials plugin => exact ⟨hw.le_one, hw.spent⟩
  | cancel => exact ⟨hw.le_one, fun _ ↦ .inr (.inr rfl)⟩
  | closeChannel => exact ⟨hw.le_one, hw.spent⟩
  | startBatch env ops =>
      obtain ⟨r, w', hb, hstep⟩ := step_startBatch_cases T env ops w
      rw [hstep]
      cases hb with
      | rejected h => exact ⟨by simpa [World.settle] using hw.le_one,
          by simpa [World.settle] using hw.spent⟩
      | empty h => exact ⟨by simpa [World.settle] using hw.le_one,
          by simpa [World.settle] using hw.spent⟩
      | raised ha hd =>
          obtain ⟨hle, hsp⟩ := hd.singleRpc hw ha ht
          refine ⟨by simpa [World.settle] using hle, fun hne ↦ ?_⟩
          rcases hsp (by simpa [World.settle] using hne) with h | ⟨⟨_, h⟩, _⟩ | h
          · exact .inl h
          · cases h
          · exact .inr (.inr h)
      | returned ha hd =>
          obtain ⟨hle, hsp⟩ := hd.singleRpc hw ha ht
          refine ⟨by simpa [World.settle] using hle, fun hne ↦ ?_⟩
          rcases hsp (by simpa [World.settle] using hne) with h | ⟨_, h⟩ | h
          · exact .inl h
          · exact .inr (.inl (by simp [World.settle, GrpcCall.finish, h]))
          · exact .inr (.inr h)

/-- A fresh call has made no RPC. -/
theorem singleRpc_fresh (method : String) (d : I64) (p : Option PluginRef) (cs : ChannelState) :
    SingleRpc (World.fresh method d p cs) := ⟨Nat.zero_le _, fun h ↦ absurd rfl h⟩

/-- **A call whose batches are all tracked makes at most one RPC**, in every run of
batches, credential changes, cancellations and channel closes. -/
theorem rpcs_length_le_one {method : String} {d : I64} {p : Option PluginRef}
    {cs : ChannelState} {acts : List Action} {w : World}
    (h : Run (Such (graph (step T)) Tracked) (World.fresh method d p cs) acts w) :
    w.rpcs.length ≤ 1 := by
  refine (h.state_invariant (I := SingleRpc) (singleRpc_fresh method d p cs) ?_).le_one
  rintro t a u ht ⟨htr, rfl⟩
  exact step_singleRpc ht htr

/-- The split unary pattern is tracked, and makes its one RPC. -/
theorem rpcs_length_le_one_split :
    ∃ w, w.rpcs.length = 1 ∧ w.rpcs.length ≤ 1 ∧
      Run (Such (graph (step Tonic.ascii)) Tracked) (World.fresh "/s/m" I64.max none .idle)
        [.startBatch .calm [metadataOp [], messageOp [1], Op.sendCloseFromClient.flag],
          .startBatch .calm [Op.recvInitialMetadata.flag, Op.recvMessage.flag,
            Op.recvStatusOnClient.flag]] w :=
  have h := Run.of_along (by decide)
  ⟨_, by decide, rpcs_length_le_one h, h⟩

/-- Two batches that only receive a message make two RPCs. -/
theorem untracked_batches_rerun :
    ∃ w, Run (graph (step Tonic.ascii)) (World.fresh "/s/m" I64.max none .idle)
        [.startBatch .calm [Op.recvMessage.flag], .startBatch .calm [Op.recvMessage.flag]] w ∧
      ¬ w.rpcs.length ≤ 1 :=
  ⟨_, Run.of_graph _ _ _, by decide⟩

end GrpcPhp
