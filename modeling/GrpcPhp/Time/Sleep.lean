import GrpcPhp.Call.Compute
import GrpcPhp.Time.Timeout

/-!
# Sleeping until a deadline

`sleepUntil` blocks until the time a value holds, and a call takes its deadline from such a
value.  So a program can make a call, sleep until its deadline and find the call expired: nothing
it does with the call afterwards reaches the transport.

The two read the value differently, however.  `sleepUntil` takes every value for an absolute time;
to a call a span counts from its construction.  And what is not a real deadline never expires.
`slept_call_sends_nothing_iff` says what is left.
-/

namespace GrpcPhp

open Lib Php

variable {T : Tonic} {env : Env}

namespace GrpcTimeval

/-- `sleep_until`: for how many microseconds it blocks, or the error of reading the clock or of
getting the runtime, which is asked for only if there is something to wait for. -/
def sleepUntil (t : GrpcTimeval) (clock : Except String I64) (runtime : Except GrpcError Unit) :
    Except PhpException ℕ := do
  let nowUsec ← clock.mapError PhpException.default
  let remaining := t.usec.saturatingSub nowUsec
  if 0 < remaining.val ∧ t.usec ≠ I64.max then
    runtime.mapError GrpcError.toPhp
    return remaining.val.toNat
  else return 0

/-- The time on the clock when a sleep that began at `now` can end. -/
def wake (t : GrpcTimeval) (now : I64) : I64 :=
  if t.usec = I64.max ∨ t.usec.val ≤ now.val then now else t.usec

variable {t : GrpcTimeval} {now now₀ : I64} {runtime : Except GrpcError Unit} {slept : ℕ}

/-- **A sleep ends at the time the value holds**, or at once. -/
theorem add_sleepUntil_eq_wake (hnow : 0 ≤ now.val)
    (h : t.sleepUntil (.ok now) runtime = .ok slept) : now.val + slept = (t.wake now).val := by
  have hlo := t.usec.lo_le
  have hhi := t.usec.le_hi
  have hremaining : 0 < (t.usec.saturatingSub now).val ↔ now.val < t.usec.val := by
    rw [Sat.val_saturatingSub]
    omega
  simp only [sleepUntil, Except.mapError, bind, Except.bind, pure, Except.pure] at h
  by_cases hsleeps : 0 < (t.usec.saturatingSub now).val ∧ t.usec ≠ I64.max
  · rw [if_pos hsleeps] at h
    have hlt := hremaining.mp hsleeps.1
    have hslept : (slept : Int) = (t.usec.saturatingSub now).val := by
      cases runtime with
      | error e => cases h
      | ok u =>
          obtain rfl := Except.ok.inj h
          exact Int.toNat_of_nonneg hsleeps.1.le
    rw [wake, if_neg (not_or.mpr ⟨hsleeps.2, hlt.not_ge⟩), hslept, Sat.val_saturatingSub]
    -- a clock after the epoch leaves no room for the difference to saturate
    omega
  · rw [if_neg hsleeps] at h
    obtain rfl := Except.ok.inj h
    have hawake : t.usec = I64.max ∨ t.usec.val ≤ now.val := by
      by_contra hne
      rw [not_or, not_le] at hne
      exact hsleeps ⟨hremaining.mpr hne.2, hne.1⟩
    rw [wake, if_pos hawake]
    exact add_zero _

/-- What has expired when the sleep ends: a real deadline of an absolute time, and what had
expired before. -/
theorem deadlineAlreadyExpired_wake_iff (h₀ : 0 < now₀.val) :
    deadlineAlreadyExpired (t.toAbsoluteUsec now₀) (t.wake now) = true
      ↔ RealDeadline (t.toAbsoluteUsec now₀)
        ∧ (t.isSpan = false ∨ (t.toAbsoluteUsec now₀).val ≤ now.val) := by
  rw [deadlineAlreadyExpired_iff]
  refine and_congr_right fun hreal ↦ ?_
  have hval := toAbsoluteUsec_of_real hreal
  have hmax : t.isSpan = false → t.usec ≠ I64.max := by
    rintro hspan hmax
    have := hreal.2
    rw [hval, hspan, hmax] at this
    exact lt_irrefl _ this
  rw [hval]
  unfold wake
  cases hspan : t.isSpan with
  | false =>
      refine iff_of_true ?_ (.inl rfl)
      rw [if_neg Bool.false_ne_true]
      split_ifs with hor
      · exact hor.resolve_left (hmax hspan)
      · exact le_refl _
  | true =>
      -- the span counts from the construction, so it is not over when its number is reached
      simp only [Bool.true_eq_false, false_or, if_true]
      split_ifs with hor
      · exact Iff.rfl
      · rw [not_or] at hor
        omega

end GrpcTimeval

/-! ## Nothing is sent after the deadline -/

/-- An expired call starts no stream on the transport. -/
theorem Started.rpcs_of_expired {bidi : Bool} {rpc : I64 → Rpc} {w w' : World}
    {r : Except PhpException Unit} (h : Started T env bidi rpc w r w')
    (hx : deadlineAlreadyExpired w.call.deadlineUsec env.nowDispatch = true) :
    w'.rpcs = w.rpcs := by
  cases h with
  | noRuntime => rfl
  | expired => rfl
  | badPath => rfl
  | spawned hnot => cases hnot.symm.trans hx

/-- It makes no unary call. -/
theorem Executed.rpcs_of_expired {md ps : Pairs} {msg : Option Bytes} {w w' : World}
    {r : Except PhpException CallResult} (h : Executed T env md ps msg w r w')
    (hx : deadlineAlreadyExpired w.call.deadlineUsec env.nowDispatch = true) :
    w'.rpcs = w.rpcs := by
  cases h with
  | noRuntime => rfl
  | expired => rfl
  | badPath hnot => cases hnot.symm.trans hx
  | raced hnot => cases hnot.symm.trans hx

/-- No dispatch of an expired call makes an RPC. -/
theorem Dispatched.rpcs_of_expired {b : BatchOps} {w w' : World}
    {r : Except PhpException BatchResult} (h : Dispatched T env b w r w')
    (hx : deadlineAlreadyExpired w.call.deadlineUsec env.nowDispatch = true) :
    w'.rpcs = w.rpcs := by
  cases h with
  | notForwarded => rfl
  | forwarded _ _ hf => exact hf.rpcs_eq
  | read _ _ hf _ => simpa using hf.rpcs_eq
  | notRead => exact World.observe_forwarded_none _
  | writePluginFailed _ _ _ _ hp => exact hp.rpcs_eq
  | writeNotStarted _ _ _ _ hp hs =>
      exact (hs.rpcs_of_expired (hp.updates.deadlineUsec_eq ▸ hx)).trans hp.rpcs_eq
  | write _ _ _ _ hp hs hsent =>
      have hstarted := hs.rpcs_of_expired (hp.updates.deadlineUsec_eq ▸ hx)
      exact hsent.rpcs_eq.trans (hstarted.trans hp.rpcs_eq)
  | bufferPluginFailed _ _ _ hp => exact hp.rpcs_eq
  | buffered _ _ _ _ hp => exact hp.rpcs_eq
  | split _ _ _ hp hs =>
      exact (hs.rpcs_of_expired (hp.updates.deadlineUsec_eq ▸ hx)).trans hp.rpcs_eq
  | freshPluginFailed _ _ _ hp => exact hp.rpcs_eq
  | unary _ _ hq _ he =>
      exact (he.rpcs_of_expired (hq.updates.deadlineUsec_eq ▸ hx)).trans hq.rpcs_eq
  | serverNotStarted _ _ hq _ _ hs =>
      exact (hs.rpcs_of_expired (hq.updates.deadlineUsec_eq ▸ hx)).trans hq.rpcs_eq
  | server _ _ hq _ _ hs _ =>
      exact (hs.rpcs_of_expired (hq.updates.deadlineUsec_eq ▸ hx)).trans hq.rpcs_eq

/-- **No step of an expired call makes an RPC.** -/
theorem step_rpcs_of_expired {w : World} {a : Action}
    (hx : ∀ env ops, a = .startBatch env ops →
      deadlineAlreadyExpired w.call.deadlineUsec env.nowDispatch = true) :
    (step T w a).rpcs = w.rpcs := by
  cases a with
  | setCredentials plugin => rfl
  | cancel => rfl
  | closeChannel => rfl
  | startBatch env ops =>
      obtain ⟨r, w', hb, hstep⟩ := step_startBatch_cases T env ops w
      rw [hstep, World.settle_rpcs]
      cases hb with
      | rejected => rfl
      | empty => rfl
      | raised _ hd => exact hd.rpcs_of_expired (hx env ops rfl)
      | returned _ hd => exact hd.rpcs_of_expired (hx env ops rfl)

/-- The actions start no batch before `since`. -/
def StartsSince (since : Int) (acts : List Action) : Prop :=
  ∀ env ops, .startBatch env ops ∈ acts → since ≤ env.nowDispatch.val

/-- A run whose batches start after the deadline makes no RPC. -/
theorem rpcs_of_run_expired {acts : List Action} {w w' : World} {d : I64} {since : I64}
    (hd : w.call.deadlineUsec = d) (hx : deadlineAlreadyExpired d since = true)
    (hacts : StartsSince since.val acts) (h : Run (graph (step T)) w acts w') :
    w'.rpcs = w.rpcs := by
  induction h with
  | nil => rfl
  | @snoc acts v w'' a hrun hstep ih =>
      obtain rfl := hstep
      have hsince : StartsSince since.val acts := fun env ops hmem ↦
        hacts env ops (List.mem_append_left _ hmem)
      rw [step_rpcs_of_expired, ih hsince]
      intro env ops ha
      have hle := hacts env ops (List.mem_append_right _ (ha ▸ List.mem_singleton_self a))
      rw [deadlineUsec_of_run hrun, hd, deadlineAlreadyExpired_iff]
      exact ⟨(deadlineAlreadyExpired_iff.mp hx).1, (deadlineAlreadyExpired_iff.mp hx).2.trans hle⟩

/-- The send half of a call, with nothing in it. -/
def emptyStart : ZendHashTable := [metadataOp [], messageOp [], Op.sendCloseFromClient.flag]

/-- A call that has not expired makes its RPC when its send half is complete. -/
theorem rpcs_of_emptyStart {method : String} {d : I64} {cs : ChannelState}
    (hmethod : T.path method = .ok ())
    (hx : deadlineAlreadyExpired d env.nowDispatch = false) (hrt : env.runtime = .ok ()) :
    (step T (World.fresh method d none cs) (.startBatch env emptyStart)).rpcs ≠ [] := by
  have hparse : parseOps emptyStart = .ok (.start [] []) := rfl
  have ha : Admitted (World.fresh method d none cs).call emptyStart (.start [] []) :=
    ⟨hparse, rfl, rfl, rfl, rfl, fun _ ↦ rfl⟩
  rw [step_of_dispatch_ok ha (dispatchBatch_split rfl rfl rfl rfl (.absent rfl)
    (.spawned hx hmethod hrt))]
  simp

/-- **A call that was slept over sends nothing** exactly if its deadline is real and comes from
an absolute time, or had passed before the sleep.  For every time value `t`, every call made with
it at `now₀` and every `sleepUntil` of it that begins at `now` and returns: that is when no run of
the call whose batches start after the sleep makes an RPC, whatever its credentials. -/
theorem slept_call_sends_nothing_iff {t : GrpcTimeval} {now₀ now : I64}
    {runtime : Except GrpcError Unit} {slept : ℕ} {method : String} {cs : ChannelState}
    (hmethod : T.path method = .ok ()) (h₀ : 0 < now₀.val) (hnow : now₀.val ≤ now.val)
    (hslept : t.sleepUntil (.ok now) runtime = .ok slept) :
    (∀ plugin acts w, StartsSince (now.val + slept) acts →
        Run (graph (step T)) (World.fresh method (t.toAbsoluteUsec now₀) plugin cs) acts w →
        w.rpcs = [])
      ↔ RealDeadline (t.toAbsoluteUsec now₀)
        ∧ (t.isSpan = false ∨ (t.toAbsoluteUsec now₀).val ≤ now.val) := by
  rw [GrpcTimeval.add_sleepUntil_eq_wake (h₀.le.trans hnow) hslept,
    ← GrpcTimeval.deadlineAlreadyExpired_wake_iff h₀]
  constructor
  · intro hall
    by_contra hx
    rw [Bool.not_eq_true] at hx
    -- the send half, started as soon as the sleep is over
    let env : Env := { Env.calm with nowDispatch := t.wake now }
    have hsent : (step T (World.fresh method (t.toAbsoluteUsec now₀) none cs)
        (.startBatch env emptyStart)).rpcs ≠ [] := rpcs_of_emptyStart hmethod hx rfl
    refine hsent (hall none [.startBatch env emptyStart] _ ?_ (Run.single rfl))
    intro env' ops hmem
    obtain ⟨rfl, -⟩ := Action.startBatch.inj (List.mem_singleton.mp hmem)
    exact le_refl _
  · intro hx plugin acts w hacts hrun
    exact rpcs_of_run_expired rfl hx hacts hrun

/-- A call made, and slept over, at one second with a value of two: it sends nothing if the value
is an absolute time, and does if it is a span. -/
theorem slept_call_sends_nothing_iff_twoSeconds :
    (∀ plugin acts w, StartsSince 2000000 acts →
        Run (graph (step Tonic.ascii)) (World.fresh "/s/m" (.ofInt 2000000) plugin .idle) acts w →
        w.rpcs = [])
      ∧ ¬ ∀ plugin acts w, StartsSince 2000000 acts →
        Run (graph (step Tonic.ascii)) (World.fresh "/s/m" (.ofInt 3000000) plugin .idle) acts w →
        w.rpcs = [] := by
  have hmethod : Tonic.ascii.path "/s/m" = .ok () := rfl
  have hnow : 0 < (I64.ofInt 1000000).val := by decide
  have hslept (isSpan : Bool) : GrpcTimeval.sleepUntil ⟨.ofInt 2000000, isSpan⟩
      (.ok (.ofInt 1000000)) (.ok ()) = .ok 1000000 := rfl
  constructor
  · exact (slept_call_sends_nothing_iff hmethod hnow le_rfl (hslept false)).mpr (by decide)
  · intro h
    exact absurd ((slept_call_sends_nothing_iff hmethod hnow le_rfl (hslept true)).mp h) (by decide)

end GrpcPhp
