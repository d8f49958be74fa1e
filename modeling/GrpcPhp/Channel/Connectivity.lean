import GrpcPhp.Call.Outcome
import GrpcPhp.Lib.Run
import GrpcPhp.Stream.System

/-!
# The connectivity state of a shared channel

The state of a `SharedChannel` is written from three places that know nothing of each
other: `execute_call` when a unary call is over, the driving task of a stream when the call
is answered, and the probe that `getConnectivityState(true)` spawns on an idle channel.
Here the three are one transition system over the state and the probes in flight.  What a
call does to the state is not described again: a label carries the call with what it meets,
and the step runs the methods of `GrpcPhp/Call` and `GrpcPhp/Stream` on it.

Two results are about whole runs.  `ready_of_run` says when `READY` means that the peer was
reached; it does not in general, because a unary call records what ended it locally too.
`recoverable_iff_of_run` says from which states polling leads to `READY`, and that from the
others a call does that is answered.
-/

namespace GrpcPhp

open Lib Php

variable {T : Tonic}

/-! ## The system -/

/-- The connectivity of a `SharedChannel`: its state, and the probes spawned on it that have
not ended. -/
@[ext]
structure Connectivity where
  state : ChannelState := .idle
  probes : Nat := 0
deriving DecidableEq, Repr

/-- What can happen on a shared channel. -/
inductive ChannelEvent where
  /-- A unary call of the channel runs to its end; whether a status it may have got was sent
  by the server or made up by the client library is not in the status itself. -/
  | unary (call : GrpcCall) (env : Env) (md plugin : Pairs) (msg : Option Bytes)
      (fromServer : Bool)
  /-- The driving task of a stream of the channel makes a step. -/
  | driver (sys : Sys) (answer : Answer) (act : Act) (fromServer : Bool)
  /-- `getConnectivityState` on a wrapper of the channel. -/
  | getConnectivityState (tryToConnect : Option Zval)
  /-- One look at the state by `watchConnectivityState`. -/
  | watchConnectivityState (lastState : ChannelState)
  /-- A probe ends; whether `ready()` succeeded. -/
  | probed (ok : Bool)

namespace Connectivity

/-- `get_connectivity_state` on a channel that is not closed. -/
def getConnectivityState (c : Connectivity) (tryToConnect : Option Zval) :
    Except PhpException ChannelState × Connectivity :=
  if tryToConnect.any fun z ↦ z.bool?.isNone then
    (.error (invalidArgument "getConnectivityState expects a bool"), c)
  else if (tryToConnect.bind Zval.bool?).getD false && c.state = .idle then
    (.ok c.state, { state := .connecting, probes := c.probes + 1 })
  else (.ok c.state, c)

/-- The end of a probe. -/
def probed (c : Connectivity) (ok : Bool) : Connectivity where
  state := if ok then .ready else .transientFailure
  probes := c.probes - 1

/-- One step.  A call of the channel holds a handle to it, so that `channelShared` is set. -/
def step (T : Tonic) (c : Connectivity) : ChannelEvent → Option Connectivity
  | .unary call env md plugin msg _ =>
      if call.channelShared then
        let w : World := { call, connectivity := c.state }
        some { c with state := (executeCall T env md plugin msg w).2.connectivity }
      else none
  | .driver sys answer act _ =>
      if sys.world.call.channelShared then
        let s := { sys with world := { sys.world with connectivity := c.state } }
        (s.step T answer (.driver act)).map fun s' ↦ { c with state := s'.world.connectivity }
      else none
  | .getConnectivityState tryToConnect => some (c.getConnectivityState tryToConnect).2
  | .watchConnectivityState _ => some c
  | .probed ok => if 0 < c.probes then some (c.probed ok) else none

end Connectivity

/-! ## What a call records -/

/-- The connectivity state after a unary call. -/
theorem executeCall_connectivity (T : Tonic) (env : Env) (md ps : Pairs) (msg : Option Bytes)
    {w : World} (hs : w.call.channelShared = true) :
    (executeCall T env md ps msg w).2.connectivity =
      if env.begins w.call.deadlineUsec then match T.path w.call.method with
        | .error _ => .transientFailure
        | .ok () => connectivityAfter (env.unary.result T w.call.deadlineUsec env.nowStatus)
      else w.connectivity := by
  obtain ⟨r, w', he⟩ := exists_executed T env md ps msg w
  rw [he.executeCall_eq]
  cases he with
  | noRuntime hrt => simp [Env.begins_of_noRuntime hrt]
  | expired hx hrt => simp [Env.begins_of_runtime hrt, hx]
  | badPath hx hp hrt =>
      simp [Env.begins_of_runtime hrt, hx, hp, World.recordOutcome, hs, connectivityAfter]
  | raced hx hp hrt => simp [Env.begins_of_runtime hrt, hx, hp, World.recordOutcome, hs]

/-- The connectivity state after a step of a stream's task. -/
theorem Sys.driver_connectivity {s s' : Sys} {answer : Answer} {act : Act}
    (h : s.step T answer (.driver act) = some s') :
    s'.world.connectivity = s.answered answer act := by
  obtain ⟨task, -, rfl⟩ := Option.map_eq_some_iff.mp h
  rfl

/-- What the end of a unary race is recorded as. -/
theorem connectivityAfter_result (T : Tonic) (d now : I64) (o : UnaryOutcome) :
    connectivityAfter (o.result T d now) = match o with
      | .readyError _ | .cancelled => .transientFailure
      | .readyElapsed | .deadline | .response _ _ => .ready
      | .status st => if (statusToPhp st d now).1 = 14 then .transientFailure else .ready := by
  cases o <;> rfl

/-- The end of a unary call is recorded as one of two states. -/
theorem connectivityAfter_cases (r : Except GrpcError CallResult) :
    connectivityAfter r = .ready ∨ connectivityAfter r = .transientFailure := by
  unfold connectivityAfter
  split
  · split
    · exact .inr rfl
    · exact .inl rfl
  · exact .inr rfl

namespace Connectivity

variable {c c' : Connectivity}

theorem step_unary {call : GrpcCall} {env : Env} {md ps : Pairs} {msg : Option Bytes} {fs : Bool}
    (h : c.step T (.unary call env md ps msg fs) = some c') : c'.probes = c.probes ∧ c'.state =
      if env.begins call.deadlineUsec then match T.path call.method with
        | .error _ => .transientFailure
        | .ok () => connectivityAfter (env.unary.result T call.deadlineUsec env.nowStatus)
      else c.state := by
  simp only [step] at h
  split at h
  · next hs =>
    cases h
    exact ⟨rfl, executeCall_connectivity T env md ps msg hs⟩
  · cases h

theorem step_driver {sys : Sys} {answer : Answer} {act : Act} {fs : Bool}
    (h : c.step T (.driver sys answer act fs) = some c') : c'.probes = c.probes ∧
      sys.world.call.channelShared = true ∧
      c'.state = { sys with world.connectivity := c.state }.answered answer act := by
  simp only [step] at h
  split at h
  · next hs =>
    obtain ⟨s', hs', rfl⟩ := Option.map_eq_some_iff.mp h
    exact ⟨rfl, hs, Sys.driver_connectivity hs'⟩
  · cases h

theorem step_probed {ok : Bool} (h : c.step T (.probed ok) = some c') : c' = c.probed ok := by
  simp only [step] at h
  split at h
  · exact (Option.some.inj h).symm
  · cases h

/-- Whatever is no poll leaves the channel as it is, or `READY`, or `TRANSIENT_FAILURE`, and
spawns no probe. -/
theorem step_settles {e : ChannelEvent} (h : c.step T e = some c')
    (he : ∀ z, e ≠ .getConnectivityState z) :
    c'.probes ≤ c.probes ∧ (c' = c ∨ c'.state = .ready ∨ c'.state = .transientFailure) := by
  cases e with
  | unary call env md ps msg fs =>
      obtain ⟨hprobes, hstate⟩ := step_unary h
      refine ⟨hprobes.le, ?_⟩
      split at hstate
      · split at hstate
        · exact .inr (.inr hstate)
        · exact .inr (hstate ▸ connectivityAfter_cases _)
      · exact .inl (Connectivity.ext hstate hprobes)
  | driver sys answer act fs =>
      obtain ⟨hprobes, hs, hstate⟩ := step_driver h
      refine ⟨hprobes.le, ?_⟩
      simp only [Sys.answered, hs, if_true] at hstate
      split at hstate
      · exact .inr (.inl hstate)
      · split at hstate
        · exact .inr (.inr hstate)
        · exact .inr (.inl hstate)
      · exact .inl (Connectivity.ext hstate hprobes)
  | getConnectivityState z => exact absurd rfl (he z)
  | watchConnectivityState last =>
      cases h
      exact ⟨le_rfl, .inl rfl⟩
  | probed ok =>
      obtain rfl := step_probed h
      refine ⟨Nat.sub_le .., .inr ?_⟩
      cases ok
      · exact .inr rfl
      · exact .inl rfl

/-- Polling reads the state, or takes it from `IDLE` to `CONNECTING` with a probe. -/
theorem getConnectivityState_cases (c : Connectivity) (z : Option Zval) :
    (c.getConnectivityState z).2 = c ∨
      c.state = .idle ∧ (c.getConnectivityState z).2 = ⟨.connecting, c.probes + 1⟩ := by
  unfold getConnectivityState
  split
  · exact .inl rfl
  · split
    · next h =>
      rw [Bool.and_eq_true] at h
      exact .inr ⟨by simpa using h.2, rfl⟩
    · exact .inl rfl

end Connectivity

/-! ## When `READY` is true -/

namespace ChannelEvent

/-- The peer was reached: a probe succeeded, or a call got a response or a status from the
server. -/
def Reaches (T : Tonic) : ChannelEvent → Prop
  | .unary call env _ _ _ fromServer =>
      env.begins call.deadlineUsec = true ∧ T.path call.method = .ok () ∧ match env.unary with
        | .response _ _ => True
        | .status _ => fromServer = true
        | _ => False
  | .driver _ _ act fromServer => act = .headers ∨ act = .rejected ∧ fromServer = true
  | .probed ok => ok = true
  | .getConnectivityState _ | .watchConnectivityState _ => False

/-- A call ends locally: there is no runtime, its deadline passes before any response, it is
cancelled, its method is no path, or the client library ends it with a status that is no
connection error. -/
def EndsLocally (T : Tonic) : ChannelEvent → Prop
  | .unary call env _ _ _ fromServer =>
      env.begins call.deadlineUsec = false ∨ (∃ e, T.path call.method = .error e)
        ∨ match env.unary with
          | .readyElapsed | .deadline | .cancelled => True
          | .status st => fromServer = false
              ∧ (statusToPhp st call.deadlineUsec env.nowStatus).1 ≠ 14
          | _ => False
  | .driver sys answer act fromServer => act = .deadline ∨ act = .cancelled
      ∨ ∃ st, act = .rejected ∧ answer = .rejected st ∧ fromServer = false
        ∧ (statusToPhp st sys.world.call.deadlineUsec sys.now).1 ≠ 14
  | .getConnectivityState _ | .watchConnectivityState _ | .probed _ => False

end ChannelEvent

/-- What ends a call locally is not recorded as news: a unary call that gets past the check of
its deadline ends by its deadline, or with a status of the client library that is no connection
error, only while the state is `READY`, and by a cancellation or on a bad path only while it is
`TRANSIENT_FAILURE`; a stream gets a status of the client library other than `UNAVAILABLE` only
while the state is `READY`. -/
def Truthful (T : Tonic) (c : Connectivity) : ChannelEvent → Prop
  | .unary call env _ _ _ fromServer =>
      env.begins call.deadlineUsec = true → match T.path call.method with
        | .error _ => c.state = .transientFailure
        | .ok () => match env.unary with
          | .readyElapsed | .deadline => c.state = .ready
          | .cancelled => c.state = .transientFailure
          | .status st => fromServer = true
              ∨ (statusToPhp st call.deadlineUsec env.nowStatus).1 = 14 ∨ c.state = .ready
          | .response _ _ | .readyError _ => True
  | .driver _ answer act fromServer => match act, answer with
      | .rejected, .rejected st => fromServer = true ∨ st.code = .unavailable ∨ c.state = .ready
      | _, _ => True
  | .getConnectivityState _ | .watchConnectivityState _ | .probed _ => True

namespace Connectivity

variable {c c' : Connectivity} {e : ChannelEvent}

/-- A unary call that leaves `READY` found it, or reached the peer. -/
theorem unary_ready {call : GrpcCall} {env : Env} {md ps : Pairs} {msg : Option Bytes} {fs : Bool}
    (h : c.step T (.unary call env md ps msg fs) = some c')
    (ht : Truthful T c (.unary call env md ps msg fs)) (hr : c'.state = .ready) :
    (ChannelEvent.unary call env md ps msg fs).Reaches T ∨ c.state = .ready := by
  rw [(step_unary h).2] at hr
  cases hx : env.begins call.deadlineUsec with
  | false => exact .inr (by simpa [hx] using hr)
  | true =>
      have ht := ht hx
      cases hp : T.path call.method with
      | error x => simp [hx, hp] at hr
      | ok u =>
          simp only [hx, hp, if_true, connectivityAfter_result] at hr ht
          simp only [ChannelEvent.Reaches, hx, hp, true_and]
          cases ho : env.unary with
          | readyError text => simp [ho] at hr
          | cancelled => simp [ho] at hr
          | readyElapsed => exact .inr (by simpa [ho] using ht)
          | deadline => exact .inr (by simpa [ho] using ht)
          | response md body => exact .inl trivial
          | status st =>
              simp only [ho] at hr ht
              rcases ht with ht | ht | ht
              · exact .inl ht
              · simp [ht] at hr
              · exact .inr ht

/-- The same for a step of a stream's task. -/
theorem driver_ready {sys : Sys} {answer : Answer} {act : Act} {fs : Bool}
    (h : c.step T (.driver sys answer act fs) = some c')
    (ht : Truthful T c (.driver sys answer act fs)) (hr : c'.state = .ready) :
    (ChannelEvent.driver sys answer act fs).Reaches T ∨ c.state = .ready := by
  obtain ⟨-, hs, hc⟩ := step_driver h
  simp only [hc, Sys.answered, hs, if_true] at hr
  cases act with
  | headers => exact .inl (.inl rfl)
  | rejected =>
      cases answer with
      | rejected st =>
          rcases ht with ht | ht | ht
          · exact .inl (.inr ⟨rfl, ht⟩)
          · simp [ht] at hr
          · exact .inr ht
      | notReady st => exact .inr hr
      | response r => exact .inr hr
  | ready | notReady | message | finish | deadline | cancelled | proceed => exact .inr hr

/-- A step that leaves `READY` found it, or reached the peer. -/
theorem step_ready (h : c.step T e = some c') (ht : Truthful T c e) (hr : c'.state = .ready) :
    e.Reaches T ∨ c.state = .ready := by
  cases e with
  | unary call env md ps msg fs => exact unary_ready h ht hr
  | driver sys answer act fs => exact driver_ready h ht hr
  | getConnectivityState z =>
      cases h
      rcases c.getConnectivityState_cases z with hc | ⟨-, hc⟩
      · exact .inr (by simpa [hc] using hr)
      · simp [hc] at hr
  | watchConnectivityState last =>
      cases h
      exact .inr hr
  | probed ok =>
      obtain rfl := step_probed h
      cases ok with
      | true => exact .inl rfl
      | false => cases hr

/-- What ends a unary call locally leaves the state as it is. -/
theorem unary_endsLocally {call : GrpcCall} {env : Env} {md ps : Pairs} {msg : Option Bytes}
    {fs : Bool} (h : c.step T (.unary call env md ps msg fs) = some c')
    (ht : Truthful T c (.unary call env md ps msg fs))
    (hl : (ChannelEvent.unary call env md ps msg fs).EndsLocally T) : c'.state = c.state := by
  rw [(step_unary h).2]
  cases hx : env.begins call.deadlineUsec with
  | false => simp
  | true =>
      have ht := ht hx
      rcases hl with hl | ⟨x, hp⟩ | hl
      · simp [hx] at hl
      · simp only [hp] at ht
        simp [hp, ht]
      · cases hp : T.path call.method with
        | error x =>
            simp only [hp] at ht
            simp [ht]
        | ok u =>
            simp only [hp, if_true, connectivityAfter_result] at ht ⊢
            cases ho : env.unary with
            | readyError text => simp [ho] at hl
            | response md body => simp [ho] at hl
            | readyElapsed | deadline | cancelled =>
                simp only [ho] at ht
                simp [ht]
            | status st =>
                simp only [ho] at hl ht
                rcases ht with ht | ht | ht
                · simp [hl.1] at ht
                · exact absurd ht hl.2
                · simp [hl.2, ht]

/-- What ends a call locally leaves the state as it is. -/
theorem step_endsLocally (h : c.step T e = some c') (ht : Truthful T c e) (hl : e.EndsLocally T) :
    c'.state = c.state := by
  cases e with
  | unary call env md ps msg fs => exact unary_endsLocally h ht hl
  | driver sys answer act fs =>
      obtain ⟨-, hs, hc⟩ := step_driver h
      simp only [hc, Sys.answered, hs, if_true]
      rcases hl with rfl | rfl | ⟨st, rfl, rfl, hfs, hcode⟩
      · rfl
      · rfl
      · have hne : st.code ≠ .unavailable :=
          fun hu ↦ hcode (statusToPhp_eq_unavailable_iff.mpr (.inl hu))
        rcases ht with ht | ht | ht
        · simp [hfs] at ht
        · exact absurd ht hne
        · simp [hne, ht]
  | getConnectivityState z => cases hl
  | watchConnectivityState last => cases hl
  | probed ok => cases hl

end Connectivity

/-- **`READY` means that the peer was reached**, in every run of calls, probes and polls on one
channel whose steps are all truthful: whenever the state is `READY`, an earlier step reached
the peer; and what ends a call locally does not change the state. -/
theorem ready_of_run {es : List ChannelEvent} {c : Connectivity}
    (h : Run (Such (pgraph (Connectivity.step T)) (Truthful T)) {} es c) :
    (c.state = .ready → ∃ e ∈ es, e.Reaches T) ∧
      ∀ e c', Truthful T c e → c.step T e = some c' → e.EndsLocally T → c'.state = c.state := by
  refine ⟨?_, fun e c' ht hs hl ↦ Connectivity.step_endsLocally hs ht hl⟩
  refine h.invariant (I := fun es c ↦ c.state = .ready → ∃ e ∈ es, e.Reaches T) ?_ ?_
  · intro hr
    cases hr
  · rintro es c e c' ih ⟨ht, hs⟩ hr
    rcases Connectivity.step_ready hs ht hr with he | hc
    · exact ⟨e, by simp, he⟩
    · obtain ⟨e', he', hreach⟩ := ih hc
      exact ⟨e', by simp [he'], hreach⟩

/-- A unary call that is answered, and a poll afterwards. -/
theorem ready_of_run_response :
    ∃ c : Connectivity, c.state = .ready ∧ Run (Such (pgraph (Connectivity.step Tonic.ascii))
        (Truthful Tonic.ascii)) {} [.unary (World.fresh "/s/m" I64.max none .idle).call .calm [] []
          none true, .getConnectivityState none] c ∧
      ∃ e ∈ [.unary (World.fresh "/s/m" I64.max none .idle).call .calm [] [] none true,
        ChannelEvent.getConnectivityState none], e.Reaches Tonic.ascii := by
  have h : Run (Such (pgraph (Connectivity.step Tonic.ascii)) (Truthful Tonic.ascii)) {}
      [.unary (World.fresh "/s/m" I64.max none .idle).call .calm [] [] none true,
        .getConnectivityState none] ⟨.ready, 0⟩ :=
    (Run.nil.snoc ⟨fun _ ↦ trivial, rfl⟩).snoc ⟨trivial, rfl⟩
  exact ⟨_, rfl, h, (ready_of_run h).1 rfl⟩

/-- The deadline of a unary call passes while an idle channel is still connecting.  No step
reached the peer, and the state is `READY`.  The channel was made with `connect_lazy`, so that
the connection is made within the call and its deadline, here five seconds off, ends the
`select!` around `unary`. -/
theorem ready_without_peer :
    ∃ c : Connectivity, c.state = .ready ∧ Run (pgraph (Connectivity.step Tonic.ascii)) {}
        [.unary (World.fresh "/s/m" (I64.ofInt 5000001) none .idle).call
          { Env.calm with unary := .deadline } [] [] none false] c ∧
      ¬ ∃ e ∈ [ChannelEvent.unary (World.fresh "/s/m" (I64.ofInt 5000001) none .idle).call
        { Env.calm with unary := .deadline } [] [] none false], e.Reaches Tonic.ascii := by
  refine ⟨⟨.ready, 0⟩, rfl, Run.single rfl, ?_⟩
  rintro ⟨e, he, hr⟩
  obtain rfl := List.mem_singleton.mp he
  exact hr.2.2

/-! ## Recovery -/

/-- A poll that asks for a connection, or a probe that succeeds. -/
def ChannelEvent.Polls : ChannelEvent → Prop
  | .getConnectivityState tryToConnect => tryToConnect = some (.bool true)
  | .probed ok => ok = true
  | .unary .. | .driver .. | .watchConnectivityState _ => False

/-- Polling alone can take the channel to `READY`. -/
def Connectivity.Recoverable (T : Tonic) (c : Connectivity) : Prop :=
  ∃ es c', Run (Such (pgraph (Connectivity.step T)) fun _ e ↦ e.Polls) c es c' ∧ c'.state = .ready

/-- A call is answered: it gets a response, or a status that its path does not take for a
connection error. -/
def ChannelEvent.Answered (T : Tonic) : ChannelEvent → Prop
  | .unary call env _ _ _ _ =>
      env.begins call.deadlineUsec = true ∧ T.path call.method = .ok () ∧ match env.unary with
        | .response _ _ => True
        | .status st => (statusToPhp st call.deadlineUsec env.nowStatus).1 ≠ 14
        | _ => False
  | .driver _ answer act _ =>
      act = .headers ∨ ∃ st, act = .rejected ∧ answer = .rejected st ∧ st.code ≠ .unavailable
  | .getConnectivityState _ | .watchConnectivityState _ | .probed _ => False

namespace Connectivity

variable {c c' : Connectivity} {e : ChannelEvent}

/-- A call that is answered makes the channel `READY`. -/
theorem step_answered (h : c.step T e = some c') (he : e.Answered T) : c'.state = .ready := by
  cases e with
  | unary call env md ps msg fs =>
      obtain ⟨hbegins, hpath, he⟩ := he
      rw [(step_unary h).2]
      simp only [hbegins, if_true, hpath, connectivityAfter_result]
      split at he
      · next ho => simp [ho]
      · next st ho => simp [ho, he]
      · cases he
  | driver sys answer act fs =>
      obtain ⟨-, hs, hst⟩ := step_driver h
      simp only [hst, Sys.answered, hs, if_true]
      rcases he with rfl | ⟨st, rfl, rfl, hcode⟩
      · rfl
      · simp [hcode]
  | getConnectivityState z => cases he
  | watchConnectivityState last => cases he
  | probed ok => cases he

/-- The probe that left the channel `CONNECTING` is still in flight. -/
def ProbeInFlight (c : Connectivity) : Prop := c.state = .connecting → 0 < c.probes

/-- No step leaves the channel `CONNECTING` without a probe. -/
theorem step_connecting (h : c.step T e = some c') (hc : c.ProbeInFlight) : c'.ProbeInFlight := by
  intro hr
  by_cases he : ∃ z, e = .getConnectivityState z
  · obtain ⟨z, rfl⟩ := he
    cases h
    rcases c.getConnectivityState_cases z with hst | ⟨-, hst⟩
    · rw [hst] at hr ⊢
      exact hc hr
    · simp [hst]
  · rcases (step_settles h fun z hz ↦ he ⟨z, hz⟩).2 with rfl | hst | hst
    · exact hc hr
    · simp [hst] at hr
    · simp [hst] at hr

/-- Without a probe in flight, polling a failed channel changes nothing. -/
theorem step_polls_failed (h : c.step T e = some c') (he : e.Polls)
    (hc : c.state = .transientFailure ∧ c.probes = 0) : c' = c := by
  cases e with
  | getConnectivityState z =>
      cases h
      rcases c.getConnectivityState_cases z with hst | ⟨hi, -⟩
      · exact hst
      · simp [hc.1] at hi
  | probed ok => simp [step, hc.2] at h
  | unary call env md ps msg fs => cases he
  | driver sys answer act fs => cases he
  | watchConnectivityState last => cases he

/-- So polling does not recover it. -/
theorem not_recoverable_of_failed (hc : c.state = .transientFailure ∧ c.probes = 0) :
    ¬ c.Recoverable T := by
  rintro ⟨es, c', hrun, hr⟩
  have hstuck : c' = c :=
    hrun.state_invariant (I := fun c' ↦ c' = c) rfl (by
      rintro _ e c' rfl ⟨he, hs⟩
      exact step_polls_failed hs he hc)
  rw [hstuck, hc.1] at hr
  cases hr

/-- A probe in flight that succeeds makes the channel `READY`. -/
theorem recoverable_of_probe (h : 0 < c.probes) : c.Recoverable T := by
  refine ⟨[.probed true], c.probed true, Run.single ⟨rfl, ?_⟩, rfl⟩
  simp [pgraph, step, h]

/-- Polling an idle channel starts a probe, which succeeds. -/
theorem recoverable_of_idle (h : c.state = .idle) : c.Recoverable T := by
  have hpoll : c.step T (.getConnectivityState (some (.bool true)))
      = some ⟨.connecting, c.probes + 1⟩ := by
    simp [step, getConnectivityState, h, Zval.bool?]
  have hprobe : step T ⟨.connecting, c.probes + 1⟩ (.probed true) = some ⟨.ready, c.probes⟩ := by
    simp [step, probed]
  exact ⟨[.getConnectivityState (some (.bool true)), .probed true], _,
    (Run.nil.snoc ⟨rfl, hpoll⟩).snoc ⟨rfl, hprobe⟩, rfl⟩

end Connectivity

/-- **Polling recovers a channel from every reachable state but a failed one that nobody is
probing**: a probe is only started on an idle channel, and no step leads back there.  A call
that is answered makes the channel `READY` from every state. -/
theorem recoverable_iff_of_run {es : List ChannelEvent} {c : Connectivity}
    (h : Run (pgraph (Connectivity.step T)) {} es c) :
    (c.Recoverable T ↔ c.state ≠ .transientFailure ∨ 0 < c.probes) ∧
      ∀ e c', c.step T e = some c' → e.Answered T → c'.state = .ready := by
  refine ⟨?_, fun e c' hs he ↦ Connectivity.step_answered hs he⟩
  have hc : c.ProbeInFlight :=
    h.state_invariant (I := Connectivity.ProbeInFlight) (fun hr ↦ by cases hr)
      fun c e c' hc hs ↦ Connectivity.step_connecting hs hc
  constructor
  · intro hrec
    by_contra hne
    exact Connectivity.not_recoverable_of_failed (by simpa using hne) hrec
  · intro hcases
    by_cases hp : 0 < c.probes
    · exact Connectivity.recoverable_of_probe hp
    · have hne := hcases.resolve_right hp
      cases hst : c.state with
      | idle => exact Connectivity.recoverable_of_idle hst
      | connecting => exact absurd (hc hst) hp
      | ready => exact ⟨[], c, .nil, hst⟩
      | transientFailure => exact absurd hst hne

/-- A channel whose first probe is in flight can become `READY` by polling, and does by a call
that the server answers. -/
theorem recoverable_iff_of_run_probing :
    ∃ c : Connectivity, c.state = .connecting ∧ Run (pgraph (Connectivity.step Tonic.ascii)) {}
        [.getConnectivityState (some (.bool true))] c ∧ c.Recoverable Tonic.ascii ∧
      ∃ c', c.step Tonic.ascii (.unary (World.fresh "/s/m" I64.max none .idle).call .calm [] [] none
        true) = some c' ∧ c'.state = .ready := by
  have h : Run (pgraph (Connectivity.step Tonic.ascii)) {}
      [.getConnectivityState (some (.bool true))] ⟨.connecting, 1⟩ := Run.single rfl
  obtain ⟨hiff, hanswered⟩ := recoverable_iff_of_run h
  refine ⟨_, rfl, h, hiff.mpr (.inr (by decide)), _, rfl, hanswered (.unary
    (World.fresh "/s/m" I64.max none .idle).call .calm [] [] none true) _ rfl ?_⟩
  exact ⟨by decide, rfl, trivial⟩

/-- The connection of the first call of a channel is refused, and the call ends with the status
`UNAVAILABLE`.  No polling takes the channel to `READY`. -/
theorem not_recoverable_after_refused_call :
    ∃ c : Connectivity, c.state = .transientFailure ∧
      Run (pgraph (Connectivity.step Tonic.ascii)) {}
        [.unary (World.fresh "/s/m" I64.max none .idle).call
          { Env.calm with unary := .status ⟨.unavailable, "tcp connect error", [], []⟩ } [] [] none
            false] c ∧
      ¬ c.Recoverable Tonic.ascii :=
  ⟨⟨.transientFailure, 0⟩, rfl, Run.single rfl,
    Connectivity.not_recoverable_of_failed ⟨rfl, rfl⟩⟩

end GrpcPhp
