import GrpcPhp.Call.Request
import GrpcPhp.Time.Order

/-!
# The timeout of a request

A request carries what is left of the deadline in its `grpc-timeout` header, which has
eight digits.  The largest unit is the hour, so a timeout of more than 99,999,999 hours
cannot be written, and tonic panics on it.

Every RPC of a call gets its timeout from the deadline of the call and a clock reading
(`step_timeout`), and the deadline of a call never changes (`deadlineUsec_of_run`).  A real
deadline is the exact sum of a span and the clock reading at construction, or the absolute
time itself, so the timeout is too long exactly if the time value is: nothing on the way
cuts it off, and only the largest `i64` counts as infinite.
-/

namespace GrpcPhp

open Lib Php

variable {T : Tonic} {env : Env}

/-! ## Where a timeout comes from -/

/-- Updates leave the deadline alone. -/
theorem Updates.deadlineUsec_eq {w w' : World} (h : Updates w w') :
    w'.call.deadlineUsec = w.call.deadlineUsec :=
  show w'.call.core.deadlineUsec = w.call.core.deadlineUsec from congrArg _ h.core_eq

/-- From `w` to `w'` no RPC was made, or one with the given timeout. -/
def TimedRpc (timeout : Option Nat) (w w' : World) : Prop :=
  w'.rpcs = w.rpcs ∨ ∃ rpc, w'.rpcs = w.rpcs ++ [rpc] ∧ rpc.timeout = timeout

/-- Only the RPC lists of the two worlds matter. -/
theorem TimedRpc.congr {timeout : Option Nat} {v v' w w' : World} (h : TimedRpc timeout v v')
    (hv : v.rpcs = w.rpcs) (hv' : v'.rpcs = w'.rpcs) : TimedRpc timeout w w' := by
  unfold TimedRpc at *
  rwa [hv, hv'] at h

/-- The RPC of a stream is timed by the deadline of the call. -/
theorem Started.timedRpc {bidi : Bool} {rpc : I64 → Rpc} {w w' : World}
    {r : Except PhpException Unit} (h : Started T env bidi rpc w r w')
    (hrpc : ∀ d, (rpc d).timeout = requestTimeout d env.nowRequest) :
    TimedRpc (requestTimeout w.call.deadlineUsec env.nowRequest) w w' :=
  h.rpc.imp_right fun hr ↦ ⟨_, hr, hrpc _⟩

/-- So is the one of a unary call. -/
theorem Executed.timedRpc {md ps : Pairs} {msg : Option Bytes} {w w' : World}
    {r : Except PhpException CallResult} (h : Executed T env md ps msg w r w') :
    TimedRpc (requestTimeout w.call.deadlineUsec env.nowRequest) w w' :=
  h.rpc.imp_right fun hr ↦ ⟨_, hr, rfl⟩

/-- **The timeout of a dispatch.** -/
theorem Dispatched.timedRpc {b : BatchOps} {w w' : World} {r : Except PhpException BatchResult}
    (h : Dispatched T env b w r w') :
    TimedRpc (requestTimeout w.call.deadlineUsec env.nowRequest) w w' := by
  cases h with
  | notForwarded => exact .inl rfl
  | forwarded _ _ hf => exact .inl hf.rpcs_eq
  | read _ _ hf _ => exact .inl (by simpa using hf.rpcs_eq)
  | notRead => exact .inl (World.observe_forwarded_none _)
  | writePluginFailed _ _ _ _ hp => exact .inl hp.rpcs_eq
  | writeNotStarted _ _ _ _ hp hs =>
      have hd := hp.updates.deadlineUsec_eq
      exact (hd ▸ hs.timedRpc fun _ ↦ rfl).congr hp.rpcs_eq rfl
  | write _ _ _ _ hp hs hsent =>
      have hd := hp.updates.deadlineUsec_eq
      exact (hd ▸ hs.timedRpc fun _ ↦ rfl).congr hp.rpcs_eq hsent.rpcs_eq.symm
  | bufferPluginFailed _ _ _ hp => exact .inl hp.rpcs_eq
  | buffered _ _ _ _ hp => exact .inl hp.rpcs_eq
  | split _ _ _ hp hs =>
      have hd := hp.updates.deadlineUsec_eq
      exact (hd ▸ hs.timedRpc fun _ ↦ rfl).congr hp.rpcs_eq rfl
  | freshPluginFailed _ _ _ hp => exact .inl hp.rpcs_eq
  | unary _ _ hq _ he => exact (hq.updates.deadlineUsec_eq ▸ he.timedRpc).congr hq.rpcs_eq rfl
  | serverNotStarted _ _ hq _ _ hs =>
      exact (hq.updates.deadlineUsec_eq ▸ hs.timedRpc fun _ ↦ rfl).congr hq.rpcs_eq rfl
  | server _ _ hq _ _ hs _ =>
      exact (hq.updates.deadlineUsec_eq ▸ hs.timedRpc fun _ ↦ rfl).congr hq.rpcs_eq rfl

/-- How a batch ended is not an RPC. -/
theorem World.settle_rpcs (ops : ZendHashTable) (r : Except PhpException BatchResult) (w : World) :
    (World.settle ops (r, w)).rpcs = w.rpcs := by
  cases r <;> simp [World.settle]

/-- **The timeout of a step.**  The RPC a batch makes is timed by the deadline of the call and
the clock reading of that batch. -/
theorem step_timeout {ops : ZendHashTable} {w : World} {rpc : Rpc}
    (h : (step T w (.startBatch env ops)).rpcs = w.rpcs ++ [rpc]) :
    rpc.timeout = requestTimeout w.call.deadlineUsec env.nowRequest := by
  obtain ⟨r, w', hb, hstep⟩ := step_startBatch_cases T env ops w
  rw [hstep, World.settle_rpcs] at h
  have htimed : TimedRpc (requestTimeout w.call.deadlineUsec env.nowRequest) w w' := by
    cases hb with
    | rejected => exact .inl rfl
    | empty => exact .inl rfl
    | raised _ hd => exact hd.timedRpc
    | returned _ hd => exact hd.timedRpc
  rcases htimed with hr | ⟨rpc', hr, ht⟩
  · simp [hr] at h
  · rw [hr] at h
    obtain rfl : rpc' = rpc := by simpa using h
    exact ht

/-- A step leaves the deadline alone. -/
theorem step_deadlineUsec (w : World) (a : Action) :
    (step T w a).call.deadlineUsec = w.call.deadlineUsec := by
  cases a with
  | setCredentials plugin => rfl
  | cancel => rfl
  | closeChannel => rfl
  | startBatch env ops =>
      obtain ⟨r, w', hb, hstep⟩ := step_startBatch_cases T env ops w
      have hsettle : (World.settle ops (r, w')).call = w'.call := by cases r <;> rfl
      rw [hstep, hsettle]
      cases hb with
      | rejected => rfl
      | empty => rfl
      | raised _ hd => exact hd.updates.deadlineUsec_eq
      | returned _ hd => exact hd.updates.deadlineUsec_eq

/-- **A call keeps its deadline**, in every run. -/
theorem deadlineUsec_of_run {acts : List Action} {w w' : World}
    (h : Run (graph (step T)) w acts w') : w'.call.deadlineUsec = w.call.deadlineUsec :=
  h.state_invariant (I := fun v ↦ v.call.deadlineUsec = w.call.deadlineUsec) rfl
    fun v a _ hv hstep ↦ hstep ▸ (step_deadlineUsec v a).trans hv

/-! ## How long it is -/

/-- The longest timeout that has a `grpc-timeout` header, 99,999,999 hours, in
microseconds. -/
def maxTimeout : Int := 99999999 * 3600 * 1000000

/-- A time value is not too far away for a header written at `now`: a span by more than what
has passed since it was resolved, an absolute time from the epoch. -/
def GrpcTimeval.InReach (t : GrpcTimeval) (nowConstruct now : I64) : Prop :=
  if t.isSpan then t.usec.val ≤ maxTimeout + (now.val - nowConstruct.val)
  else t.usec.val ≤ maxTimeout + now.val

instance (t : GrpcTimeval) (nowConstruct now : I64) : Decidable (t.InReach nowConstruct now) :=
  inferInstanceAs (Decidable (if t.isSpan then _ else _))

/-- A real deadline is the exact time its time value stands for. -/
theorem GrpcTimeval.toAbsoluteUsec_of_real {t : GrpcTimeval} {now : I64}
    (h : RealDeadline (t.toAbsoluteUsec now)) : (t.toAbsoluteUsec now).val
      = if t.isSpan then now.val + t.usec.val else t.usec.val := by
  cases hs : t.isSpan with
  | false => rw [toAbsoluteUsec_of_absolute hs]; rfl
  | true =>
      have hfin : t.isInfinite = false := by
        by_contra hinf
        rw [toAbsoluteUsec_of_infinite (by simpa using hinf)] at h
        have hval := isInfinite_iff.mp (by simpa using hinf)
        have hpos := h.1
        have hlt := h.2
        rw [I64.val_max] at hlt
        omega
      rw [toAbsoluteUsec_of_span hs hfin] at h ⊢
      have hpos := h.1
      have hlt := h.2
      rw [I64.val_max] at hlt
      simp only [Sat.val_saturatingAdd, if_true] at hpos hlt ⊢
      omega

/-- **The timeout is representable exactly if the time value is in reach.**  For every time
value, every clock reading at construction, every run of the call and every batch of it that
makes an RPC: a real deadline gives a timeout of at least a microsecond, which has a header
if and only if the value the deadline was made from is in reach. -/
theorem timeout_representable_iff {t : GrpcTimeval} {nowConstruct : I64} {method : String}
    {plugin : Option PluginRef} {cs : ChannelState} {acts : List Action} {w : World}
    (hrun : Run (graph (step T)) (World.fresh method (t.toAbsoluteUsec nowConstruct) plugin cs)
      acts w)
    (hreal : RealDeadline (t.toAbsoluteUsec nowConstruct)) {ops : ZendHashTable} {rpc : Rpc}
    (hrpc : (step T w (.startBatch env ops)).rpcs = w.rpcs ++ [rpc]) :
    ∃ usec : ℕ, rpc.timeout = some usec ∧ 1 ≤ usec
      ∧ (usec ≤ maxTimeout ↔ t.InReach nowConstruct env.nowRequest) := by
  have hdeadline : w.call.deadlineUsec = t.toAbsoluteUsec nowConstruct := deadlineUsec_of_run hrun
  have htimeout := step_timeout hrpc
  rw [hdeadline, requestTimeout, if_pos ⟨hreal.2, hreal.1⟩] at htimeout
  refine ⟨_, htimeout, by omega, ?_⟩
  have hval := GrpcTimeval.toAbsoluteUsec_of_real hreal
  generalize t.toAbsoluteUsec nowConstruct = d at hval
  rw [GrpcTimeval.InReach, Sat.val_saturatingSub, hval]
  simp only [maxTimeout]
  split <;> omega

/-- A half-closed start with a deadline of five seconds from now. -/
theorem fiveSeconds_representable :
    ∃ rpc usec, (step Tonic.ascii (World.fresh "/s/m"
        (GrpcTimeval.toAbsoluteUsec ⟨.ofInt 5000000, true⟩ I64.one) none .idle)
        (.startBatch .calm [metadataOp [], messageOp [1], Op.sendCloseFromClient.flag])).rpcs
      = [rpc]
      ∧ rpc.timeout = some usec ∧ 1 ≤ usec ∧ usec ≤ maxTimeout := by
  have hrpc : (step Tonic.ascii (World.fresh "/s/m"
      (GrpcTimeval.toAbsoluteUsec ⟨.ofInt 5000000, true⟩ I64.one) none .idle) (.startBatch .calm
        [metadataOp [], messageOp [1], Op.sendCloseFromClient.flag])).rpcs
      = [] ++ [.serverStreaming ⟨[1], [], some 5000000⟩] := by decide
  obtain ⟨usec, ht, hpos, hiff⟩ := timeout_representable_iff .nil (by decide) hrpc
  exact ⟨_, usec, hrpc, ht, hpos, hiff.mpr (by decide)⟩

/-- A unary call with a deadline of `10 ^ 18` microseconds from now: the timeout passed to
`set_timeout` is 277,777,777 hours. -/
theorem longSpan_not_representable :
    ∃ t, GrpcTimeval.construct (.long (.ofInt 1000000000000000000)) = .ok t
      ∧ RealDeadline (t.toAbsoluteUsec I64.one)
      ∧ ∃ rpc usec, (step Tonic.ascii (World.fresh "/s/m" (t.toAbsoluteUsec I64.one) none .idle)
          (.startBatch .calm [metadataOp [], messageOp [1], Op.sendCloseFromClient.flag,
            Op.recvMessage.flag, Op.recvStatusOnClient.flag])).rpcs = [rpc]
        ∧ rpc.timeout = some usec ∧ ¬ usec ≤ maxTimeout :=
  ⟨⟨.ofInt 1000000000000000000, true⟩, rfl, by decide,
    .unary ⟨[1], [], some 1000000000000000000⟩, 1000000000000000000, by decide, rfl, by decide⟩

end GrpcPhp
