import GrpcPhp.Channel.Agreement
import GrpcPhp.Channel.Construct
import GrpcPhp.Lib.Potential
import GrpcPhp.Time.Timeval
import Mathlib.Order.Lattice

/-!
# Polling and watching the connectivity state

`getConnectivityState` and `watchConnectivityState` take the lock of the connectivity state
more than once, and between two of their looks a stream's task or a probe may write it.  Here
the two methods are steps of the PHP thread, one for each time the lock is held or the clock
is read, and everything else on the channel happens between them, in any order.

`probe_of_run` is about the whole life of a channel: it is idle until it is used and never
again, and it is probed at most once.  `watch_returns` is about one `watchConnectivityState`:
each answer is justified by a state that was seen, no sleep lasts longer than ten milliseconds
or past the deadline, and there is a bound on the number of looks.
-/

namespace GrpcPhp

open Lib Php

variable {T : Tonic}

/-! ## The two methods -/

/-- The number PHP sees for a state. -/
def ChannelState.code : ChannelState → ℤ
  | .idle => 0
  | .connecting => 1
  | .ready => 2
  | .transientFailure => 3

/-- Where the PHP thread is. -/
inductive Polling where
  /-- In neither of the methods. -/
  | outside
  /-- In `getConnectivityState(true)`, which has found the channel idle. -/
  | connecting
  /-- In `watchConnectivityState`, at the head of the loop. -/
  | watching (lastState deadlineUsec : I64)
  /-- The state has not changed; the clock is read next. -/
  | looked (lastState deadlineUsec : I64)
  /-- Asleep until the clock shows `wake`. -/
  | sleeping (lastState deadlineUsec : I64) (wake : ℤ)
deriving DecidableEq, Repr

/-- What a method returned to PHP. -/
inductive PollReply where
  | state (s : ChannelState)
  | changed (b : Bool)
  | raised (e : PhpException)
deriving DecidableEq, Repr

/-- What a poll says to PHP. -/
def PollReply.ofPoll : Except PhpException ChannelState → PollReply
  | .ok st => .state st
  | .error e => .raised e

/-- A channel and the PHP thread that polls it. -/
structure Monitor where
  connectivity : Connectivity := {}
  clock : I64 := I64.zero
  polling : Polling := .outside
  replies : List PollReply := []
deriving DecidableEq, Repr

/-- What can happen. -/
inductive MonitorLabel where
  /-- `getConnectivityState` on an object of the channel, with the results of `pump` and of
  getting the runtime. -/
  | getConnectivityState (ch : GrpcChannel) (tryToConnect : Option Zval)
      (pump runtime : Except String Unit)
  /-- `getConnectivityState` writes `CONNECTING` and spawns a probe. -/
  | spawn
  /-- `watchConnectivityState` on an object of the channel. -/
  | watchConnectivityState (ch : GrpcChannel) (lastState : I64) (deadline : GrpcTimeval)
      (runtime : Except String Unit)
  /-- The next step of `watchConnectivityState`. -/
  | watch
  /-- A call of the channel, a stream's task or a probe; see `GrpcPhp/Channel/Connectivity`. -/
  | channel (e : ChannelEvent)
  /-- Time passes. -/
  | tick (now : I64)

namespace MonitorLabel

/-- A method is called. -/
def isCall : MonitorLabel → Bool
  | .getConnectivityState .. | .watchConnectivityState .. => true
  | .spawn | .watch | .channel _ | .tick _ => false

/-- A probe is spawned. -/
def isSpawn : MonitorLabel → Bool
  | .spawn => true
  | _ => false

/-- The next step of `watchConnectivityState`. -/
def isWatch : MonitorLabel → Bool
  | .watch => true
  | _ => false

theorem isSpawn_of_isCall {l : MonitorLabel} (h : l.isCall = true) : l.isSpawn = false := by
  cases l with
  | spawn => cases h
  | _ => rfl

end MonitorLabel

/-- How long the loop sleeps: until the deadline, but no longer than ten milliseconds. -/
def waitUsec (deadlineUsec now : I64) : ℤ :=
  max 1 (min 10000 (deadlineUsec.saturatingSub now).val)

namespace Monitor

/-- Return to PHP. -/
def reply (s : Monitor) (r : PollReply) : Monitor :=
  { s with polling := .outside, replies := s.replies ++ [r] }

/-- `get_connectivity_state`, up to the place where it writes. -/
def getConnectivityState (s : Monitor) (ch : GrpcChannel) (tryToConnect : Option Zval)
    (pump runtime : Except String Unit) : Monitor :=
  if tryToConnect.any fun z ↦ z.bool?.isNone then
    s.reply (.raised (invalidArgument "getConnectivityState expects a bool"))
  else if ch.inner.isNone then
    s.reply (.raised (runtimeException "getConnectivityState error.Channel is already closed."))
  else match pump with
    | .error text => s.reply (.raised (GrpcError.runtimeInit text).toPhp)
    | .ok () =>
        if (tryToConnect.bind Zval.bool?).getD false && s.connectivity.state = .idle then
          match runtime with
          | .error text => s.reply (.raised (GrpcError.runtimeInit text).toPhp)
          | .ok () => { s with polling := .connecting }
        else s.reply (.state s.connectivity.state)

/-- `watch_connectivity_state`, up to its loop. -/
def watchConnectivityState (s : Monitor) (ch : GrpcChannel) (lastState : I64)
    (deadline : GrpcTimeval) (runtime : Except String Unit) : Monitor :=
  if ch.inner.isNone then
    s.reply (.raised (runtimeException "watchConnectivityState errorChannel is already closed."))
  else match runtime with
    | .error text => s.reply (.raised (GrpcError.runtimeInit text).toPhp)
    | .ok () => { s with polling := .watching lastState (deadline.toAbsoluteUsec s.clock) }

/-- One step of the loop. -/
def watch (s : Monitor) : Option Monitor := match s.polling with
  | .outside | .connecting => none
  | .watching last d =>
      if s.connectivity.state.code ≠ last.val then some (s.reply (.changed true))
      else some { s with polling := .looked last d }
  | .looked last d =>
      if d.val ≤ s.clock.val then some (s.reply (.changed false))
      else some { s with polling := .sleeping last d (s.clock.val + waitUsec d s.clock) }
  | .sleeping last d wake =>
      if wake ≤ s.clock.val then some { s with polling := .watching last d } else none

/-- One step.  A unary call occupies the PHP thread, and the two methods are separate labels. -/
def step (T : Tonic) (s : Monitor) : MonitorLabel → Option Monitor
  | .getConnectivityState ch z pump runtime =>
      if s.polling = .outside then some (s.getConnectivityState ch z pump runtime) else none
  | .spawn =>
      if s.polling = .connecting then
        some { s with
          connectivity := { state := .connecting, probes := s.connectivity.probes + 1 }
          polling := .outside
          replies := s.replies ++ [.state .idle] }
      else none
  | .watchConnectivityState ch last deadline runtime =>
      if s.polling = .outside then some (s.watchConnectivityState ch last deadline runtime)
      else none
  | .watch => s.watch
  | .channel (.getConnectivityState _) | .channel (.watchConnectivityState _) => none
  | .channel (.unary call env md ps msg fs) =>
      if s.polling = .outside then
        (s.connectivity.step T (.unary call env md ps msg fs)).map fun c ↦
          { s with connectivity := c }
      else none
  | .channel e => (s.connectivity.step T e).map fun c ↦ { s with connectivity := c }
  | .tick now => if s.clock.val ≤ now.val then some { s with clock := now } else none

variable {s s' : Monitor} {l : MonitorLabel}

/-- Polling a channel replies, or finds it idle and goes on to connect it. -/
theorem getConnectivityState_cases (s : Monitor) (ch : GrpcChannel) (z : Option Zval)
    (pump runtime : Except String Unit) :
    (∃ r, s.getConnectivityState ch z pump runtime = s.reply r)
      ∨ s.connectivity.state = .idle
        ∧ s.getConnectivityState ch z pump runtime = { s with polling := .connecting } := by
  unfold getConnectivityState
  split
  · exact .inl ⟨_, rfl⟩
  · split
    · exact .inl ⟨_, rfl⟩
    · split
      · exact .inl ⟨_, rfl⟩
      · split
        · next hidle =>
          rw [Bool.and_eq_true, decide_eq_true_eq] at hidle
          split
          · exact .inl ⟨_, rfl⟩
          · exact .inr ⟨hidle.2, rfl⟩
        · exact .inl ⟨_, rfl⟩

/-- Watching a channel replies, or enters the loop. -/
theorem watchConnectivityState_cases (s : Monitor) (ch : GrpcChannel) (last : I64)
    (deadline : GrpcTimeval) (runtime : Except String Unit) :
    (∃ r, s.watchConnectivityState ch last deadline runtime = s.reply r)
      ∨ s.watchConnectivityState ch last deadline runtime
        = { s with polling := .watching last (deadline.toAbsoluteUsec s.clock) } := by
  unfold watchConnectivityState
  split
  · exact .inl ⟨_, rfl⟩
  · split
    · exact .inl ⟨_, rfl⟩
    · exact .inr rfl

/-- What a step of the loop does. -/
inductive Watches (s : Monitor) : Monitor → Prop
  | /-- The state has changed. -/
    changed {last d : I64} : s.polling = .watching last d →
      s.connectivity.state.code ≠ last.val → Watches s (s.reply (.changed true))
  | /-- The state has not changed. -/
    same {last d : I64} : s.polling = .watching last d → s.connectivity.state.code = last.val →
      Watches s { s with polling := .looked last d }
  | /-- The deadline has passed. -/
    expired {last d : I64} : s.polling = .looked last d → d.val ≤ s.clock.val →
      Watches s (s.reply (.changed false))
  | /-- There is time left. -/
    sleep {last d : I64} : s.polling = .looked last d → s.clock.val < d.val →
      Watches s { s with polling := .sleeping last d (s.clock.val + waitUsec d s.clock) }
  | /-- The sleep is over. -/
    wake {last d : I64} {wake : ℤ} : s.polling = .sleeping last d wake → wake ≤ s.clock.val →
      Watches s { s with polling := .watching last d }

theorem watches_of_watch (h : s.watch = some s') : s.Watches s' := by
  unfold watch at h
  split at h
  · cases h
  · cases h
  · next hp =>
    split at h
    · next hne =>
      cases h
      exact .changed hp hne
    · next heq =>
      cases h
      exact .same hp (not_not.mp heq)
  · next hp =>
    split at h
    · next hle =>
      cases h
      exact .expired hp hle
    · next hlt =>
      cases h
      exact .sleep hp (Int.not_le.mp hlt)
  · next hp =>
    split at h
    · next hle =>
      cases h
      exact .wake hp hle
    · cases h

/-- What a step does.  `e` in `channel` is a unary call, a step of a stream's task or the end of
a probe. -/
inductive Moves (T : Tonic) (s : Monitor) : MonitorLabel → Monitor → Prop
  | /-- A method returns at once. -/
    replies {l : MonitorLabel} (r : PollReply) : s.polling = .outside → l.isCall = true →
      Moves T s l (s.reply r)
  | /-- `getConnectivityState` finds the channel idle. -/
    connects {l : MonitorLabel} : s.polling = .outside → s.connectivity.state = .idle →
      l.isCall = true → Moves T s l { s with polling := .connecting }
  | /-- `getConnectivityState` writes. -/
    spawns : s.polling = .connecting → Moves T s .spawn
      { s with
        connectivity := { state := .connecting, probes := s.connectivity.probes + 1 }
        polling := .outside
        replies := s.replies ++ [.state .idle] }
  | /-- `watchConnectivityState` enters its loop. -/
    enters {l : MonitorLabel} (last d : I64) : s.polling = .outside → l.isCall = true →
      Moves T s l { s with polling := .watching last d }
  | /-- A step of the loop. -/
    watches {s' : Monitor} : s.Watches s' → Moves T s .watch s'
  | /-- Something else on the channel. -/
    channel {e : ChannelEvent} {c : Connectivity} : (∀ z, e ≠ .getConnectivityState z) →
      s.connectivity.step T e = some c → Moves T s (.channel e) { s with connectivity := c }
  | /-- Time passes. -/
    ticks {now : I64} : s.clock.val ≤ now.val → Moves T s (.tick now) { s with clock := now }

theorem moves_of_step (h : s.step T l = some s') : Moves T s l s' := by
  cases l with
  | getConnectivityState ch z pump runtime =>
      obtain ⟨hp, h⟩ := Option.ite_none_right_eq_some.mp h
      obtain rfl := Option.some.inj h
      rcases s.getConnectivityState_cases ch z pump runtime with ⟨r, hr⟩ | ⟨hidle, hr⟩
      · rw [hr]
        exact .replies r hp rfl
      · rw [hr]
        exact .connects hp hidle rfl
  | spawn =>
      obtain ⟨hp, h⟩ := Option.ite_none_right_eq_some.mp h
      obtain rfl := Option.some.inj h
      exact .spawns hp
  | watchConnectivityState ch last deadline runtime =>
      obtain ⟨hp, h⟩ := Option.ite_none_right_eq_some.mp h
      obtain rfl := Option.some.inj h
      rcases s.watchConnectivityState_cases ch last deadline runtime with ⟨r, hr⟩ | hr
      · rw [hr]
        exact .replies r hp rfl
      · rw [hr]
        exact .enters _ _ hp rfl
  | watch => exact .watches (watches_of_watch h)
  | channel e =>
      cases e with
      | getConnectivityState | watchConnectivityState => cases h
      | unary =>
          obtain ⟨-, h⟩ := Option.ite_none_right_eq_some.mp h
          obtain ⟨c, hc, rfl⟩ := Option.map_eq_some_iff.mp h
          exact .channel (fun _ ↦ nofun) hc
      | driver | probed =>
          obtain ⟨c, hc, rfl⟩ := Option.map_eq_some_iff.mp h
          exact .channel (fun _ ↦ nofun) hc
  | tick now =>
      obtain ⟨hle, h⟩ := Option.ite_none_right_eq_some.mp h
      obtain rfl := Option.some.inj h
      exact .ticks hle

/-- A poll of an open channel that nothing comes in between of is the single step of
`GrpcPhp/Channel/Connectivity`. -/
theorem poll_atomic (T : Tonic) (s : Monitor) (hs : s.polling = .outside) {ch : GrpcChannel}
    (hch : ch.inner.isNone = false) (z : Option Zval) :
    ∃ ls s', Run (pgraph (step T)) s (.getConnectivityState ch z (.ok ()) (.ok ()) :: ls) s'
      ∧ (∀ l ∈ ls, l = .spawn) ∧ s'.polling = .outside ∧ s'.clock = s.clock
      ∧ s'.connectivity = (s.connectivity.getConnectivityState z).2
      ∧ s'.replies = s.replies ++ [.ofPoll (s.connectivity.getConnectivityState z).1] := by
  have hpoll : s.step T (.getConnectivityState ch z (.ok ()) (.ok ()))
      = some (s.getConnectivityState ch z (.ok ()) (.ok ())) := if_pos hs
  simp only [getConnectivityState, Connectivity.getConnectivityState, hch, Bool.false_eq_true,
    if_false] at hpoll ⊢
  split at hpoll
  · next hbool =>
    rw [if_pos hbool]
    exact ⟨[], _, .single hpoll, by simp, rfl, rfl, rfl, rfl⟩
  · next hbool =>
    rw [if_neg hbool]
    split at hpoll
    · next hidle =>
      have hstate : s.connectivity.state = .idle := by
        rw [Bool.and_eq_true, decide_eq_true_eq] at hidle
        exact hidle.2
      have hspawn : step T { s with polling := .connecting } .spawn = some _ := rfl
      rw [if_pos hidle, hstate]
      exact ⟨[.spawn], _, (Run.single hpoll).snoc hspawn, by simp, rfl, rfl, rfl, rfl⟩
    · next hidle =>
      rw [if_neg hidle]
      exact ⟨[], _, .single hpoll, by simp, rfl, rfl, rfl, rfl⟩

end Monitor

/-! ## One probe -/

namespace Connectivity

variable {c c' : Connectivity} {e : ChannelEvent}

/-- Nothing on a channel makes it idle, and only polling spawns a probe. -/
theorem step_frame (h : c.step T e = some c') (he : ∀ z, e ≠ .getConnectivityState z) :
    (c'.state = .idle → c.state = .idle) ∧ c'.probes ≤ c.probes := by
  obtain ⟨hprobes, hst⟩ := step_settles h he
  refine ⟨fun hi ↦ ?_, hprobes⟩
  rcases hst with rfl | hst | hst
  · exact hi
  · simp [hst] at hi
  · simp [hst] at hi

end Connectivity

namespace Monitor

variable {s s' : Monitor} {l : MonitorLabel} {ls : List MonitorLabel}

/-- What is left of the one probe: none was spawned while the channel is idle, or while a poll
that found it idle has not written yet. -/
structure Once (ls : List MonitorLabel) (s : Monitor) : Prop where
  le_one : ls.countP MonitorLabel.isSpawn ≤ 1
  probes_le : s.connectivity.probes ≤ ls.countP MonitorLabel.isSpawn
  idle : s.connectivity.state = .idle → ls.countP MonitorLabel.isSpawn = 0
  connecting : s.polling = .connecting → ls.countP MonitorLabel.isSpawn = 0
  inFlight : s.connectivity.ProbeInFlight

/-- A step that does not spawn a probe. -/
theorem Once.other (h : Once ls s) (hl : l.isSpawn = false)
    (hidle : s'.connectivity.state = .idle → s.connectivity.state = .idle)
    (hprobes : s'.connectivity.probes ≤ s.connectivity.probes)
    (hpolling : s'.polling = .connecting → s.polling = .connecting ∨ s.connectivity.state = .idle)
    (hflight : s'.connectivity.ProbeInFlight) : Once (ls ++ [l]) s' := by
  have hcount : (ls ++ [l]).countP MonitorLabel.isSpawn = ls.countP MonitorLabel.isSpawn := by
    rw [List.countP_append, List.countP_singleton, hl]
    rfl
  exact ⟨hcount ▸ h.le_one, hcount ▸ hprobes.trans h.probes_le, fun hi ↦ hcount ▸ h.idle (hidle hi),
    fun hp ↦ hcount ▸ (hpolling hp).elim h.connecting h.idle, hflight⟩

theorem Once.step (h : Once ls s) (hs : s.step T l = some s') : Once (ls ++ [l]) s' := by
  cases moves_of_step hs with
  | replies r hp hl => exact h.other (MonitorLabel.isSpawn_of_isCall hl) id le_rfl nofun h.inFlight
  | connects hp hidle hl =>
      exact h.other (MonitorLabel.isSpawn_of_isCall hl) id le_rfl (fun _ ↦ .inr hidle) h.inFlight
  | spawns hp =>
      have hzero := h.connecting hp
      have hcount : (ls ++ [MonitorLabel.spawn]).countP MonitorLabel.isSpawn = 1 := by
        rw [List.countP_append, hzero]
        rfl
      have hprobes := h.probes_le
      refine ⟨hcount.le, ?_, nofun, nofun, fun _ ↦ Nat.succ_pos _⟩
      show s.connectivity.probes + 1 ≤ (ls ++ [MonitorLabel.spawn]).countP MonitorLabel.isSpawn
      omega
  | enters last d hp hl =>
      exact h.other (MonitorLabel.isSpawn_of_isCall hl) id le_rfl nofun h.inFlight
  | watches hw => cases hw <;> exact h.other rfl id le_rfl nofun h.inFlight
  | channel he hc =>
      obtain ⟨hidle, hprobes⟩ := Connectivity.step_frame hc he
      exact h.other rfl hidle hprobes .inl (Connectivity.step_connecting hc h.inFlight)
  | ticks hle => exact h.other rfl id le_rfl .inl h.inFlight

/-- No step makes the channel idle. -/
theorem step_idle (hs : s.step T l = some s') (hi : s'.connectivity.state = .idle) :
    s.connectivity.state = .idle := by
  cases moves_of_step hs with
  | replies | connects | enters | ticks => exact hi
  | spawns => cases hi
  | watches hw => cases hw <;> exact hi
  | channel he hc => exact (Connectivity.step_frame hc he).1 hi

end Monitor

/-- **A channel is probed at most once in its life**, however polls, watches, calls, streams'
tasks and the end of the probe are interleaved, also between a poll that finds the channel
idle and its write.  `CONNECTING` always means that this probe is in flight, even where it
overwrites what a task has recorded, and no channel becomes idle again. -/
theorem probe_of_run {t : I64} {ls : List MonitorLabel} {s : Monitor}
    (h : Run (pgraph (Monitor.step T)) { clock := t } ls s) :
    ls.countP MonitorLabel.isSpawn ≤ 1
      ∧ s.connectivity.probes ≤ ls.countP MonitorLabel.isSpawn
      ∧ (s.connectivity.state = .connecting → s.connectivity.probes = 1)
      ∧ (s.connectivity.state = .idle → ls.countP MonitorLabel.isSpawn = 0)
      ∧ ∀ ls' s', Run (pgraph (Monitor.step T)) s ls' s' → s.connectivity.state ≠ .idle →
          s'.connectivity.state ≠ .idle := by
  have honce : Monitor.Once ls s :=
    h.invariant (I := Monitor.Once) ⟨Nat.zero_le _, le_rfl, fun _ ↦ rfl, fun _ ↦ rfl, nofun⟩
      fun _ _ _ _ ih hs ↦ ih.step hs
  refine ⟨honce.le_one, honce.probes_le, fun hc ↦ ?_, honce.idle, fun ls' s' h' hne ↦ ?_⟩
  · have hpos := honce.inFlight hc
    have hle := honce.probes_le.trans honce.le_one
    omega
  · exact h'.state_invariant (I := fun s' ↦ s'.connectivity.state ≠ .idle) hne
      fun _ _ _ ih hs hi ↦ ih (Monitor.step_idle hs hi)

/-- A poll that finds the channel idle, and is overtaken by a stream that is answered. -/
def MonitorLabel.overtaken : List MonitorLabel :=
  let answer : Answer := .rejected ⟨.notFound, "no", [], []⟩
  [.getConnectivityState ⟨some ⟨0, "localhost:1", none, none, none⟩, false⟩ (some (.bool true))
      (.ok ()) (.ok ()),
    .channel (.driver (.awaiting answer) answer .rejected true),
    .spawn]

/-- The poll overwrites `READY`, and the probe it has spawned is in flight. -/
theorem probe_of_run_overtaken : ∃ s,
    Run (pgraph (Monitor.step .ascii)) { clock := I64.zero } MonitorLabel.overtaken s
      ∧ s.connectivity.state = .connecting ∧ s.connectivity.probes = 1
      ∧ ∀ ls' s', Run (pgraph (Monitor.step .ascii)) s ls' s' → s'.connectivity.state ≠ .idle :=
  have hrun := Run.of_foldlM rfl
  ⟨_, hrun, rfl, (probe_of_run hrun).2.2.1 rfl, fun ls' s' h' ↦
    (probe_of_run hrun).2.2.2.2 ls' s' h' nofun⟩

/-! ## Watching -/

/-- The number of sleeps that fit between two times. -/
def naps (d now : ℤ) : ℕ := ((d - now).toNat + 9999) / 10000

theorem naps_mono {d now now' : ℤ} (h : now ≤ now') : naps d now' ≤ naps d now := by
  unfold naps
  omega

/-- With time left, a sleep ends at the deadline or after ten milliseconds. -/
theorem waitUsec_eq {d now : I64} (h : now.val < d.val) :
    waitUsec d now = min 10000 (d.val - now.val) := by
  have hd := d.le_hi
  have hn := now.lo_le
  simp only [waitUsec, Sat.val_saturatingSub]
  omega

theorem naps_wait {d now : I64} (h : now.val < d.val) :
    naps d.val (now.val + waitUsec d now) + 1 = naps d.val now.val := by
  rw [waitUsec_eq h]
  unfold naps
  omega

namespace Monitor

variable {s s' t : Monitor} {l : MonitorLabel} {ls : List MonitorLabel} {last d : I64}

/-- The steps that `watchConnectivityState` can still make. -/
def looks (s : Monitor) : ℕ := match s.polling with
  | .outside | .connecting => 0
  | .watching _ d => 3 * naps d.val s.clock.val + 2
  | .looked _ d => 3 * naps d.val s.clock.val + 1
  | .sleeping _ d wake => 3 * naps d.val wake + 3

/-- A step that is not a call of a method. -/
theorem step_looks (hs : s.step T l = some s') (hl : l.isCall = false) :
    s'.looks + l.isWatch.toNat ≤ s.looks := by
  cases moves_of_step hs with
  | replies _ _ hcall | connects _ _ hcall | enters _ _ _ hcall =>
      rw [hcall] at hl
      cases hl
  | spawns hp => exact Nat.zero_le _
  | channel => exact le_rfl
  | ticks hle =>
      -- time that passes leaves room for fewer sleeps
      have hmono (d : I64) := naps_mono (d := d.val) hle
      unfold looks
      cases s.polling with
      | outside | connecting | sleeping => exact le_rfl
      | watching last d | looked last d =>
          have := hmono d
          simp only [MonitorLabel.isWatch, Bool.toNat_false]
          omega
  | watches hw =>
      cases hw with
      | changed hp | expired hp =>
          simp only [looks, reply, hp, MonitorLabel.isWatch, Bool.toNat_true]
          omega
      | same hp => simp [looks, hp, MonitorLabel.isWatch]
      | @sleep last d hp hlt =>
          have := naps_wait hlt
          simp only [looks, hp, MonitorLabel.isWatch, Bool.toNat_true]
          omega
      | @wake last d wake hp hle =>
          have := naps_mono (d := d.val) hle
          simp only [looks, hp, MonitorLabel.isWatch, Bool.toNat_true]
          omega

/-- A state of the channel was met on the way from `s`. -/
def Met (T : Tonic) (s : Monitor) (ls : List MonitorLabel) (P : ChannelState → Prop) : Prop :=
  ∃ pre post m, ls = pre ++ post ∧ Run (pgraph (step T)) s pre m ∧ P m.connectivity.state

theorem Met.snoc {P : ChannelState → Prop} (h : Met T s ls P) (l : MonitorLabel) :
    Met T s (ls ++ [l]) P := by
  obtain ⟨pre, post, m, rfl, hrun, hm⟩ := h
  exact ⟨pre, post ++ [l], m, List.append_assoc .., hrun, hm⟩

/-- Where a `watchConnectivityState` that started in `s` has got to. -/
inductive Watching (T : Tonic) (s : Monitor) (last d : I64) (ls : List MonitorLabel) (t : Monitor) :
    Prop
  | /-- At the head of the loop. -/
    head : t.polling = .watching last d → t.replies = s.replies → Watching T s last d ls t
  | /-- The state was still the same. -/
    looked : t.polling = .looked last d → t.replies = s.replies →
      Met T s ls (·.code = last.val) → Watching T s last d ls t
  | /-- Asleep, not beyond the deadline and not for longer than ten milliseconds. -/
    asleep {wake : ℤ} : t.polling = .sleeping last d wake → t.replies = s.replies →
      wake ≤ d.val → wake ≤ t.clock.val + 10000 → Watching T s last d ls t
  | /-- It has returned that the state has changed, and it had. -/
    changed : t.polling = .outside → t.replies = s.replies ++ [.changed true] →
      Met T s ls (·.code ≠ last.val) → Watching T s last d ls t
  | /-- It has returned that the state has not changed; it had not when it was last looked at,
    and the deadline has passed. -/
    expired : t.polling = .outside → t.replies = s.replies ++ [.changed false] →
      Met T s ls (·.code = last.val) → d.val ≤ t.clock.val → Watching T s last d ls t

/-- What another party does, or time that passes. -/
theorem Watching.other (h : Watching T s last d ls t) (l : MonitorLabel)
    (hpolling : s'.polling = t.polling) (hreplies : s'.replies = t.replies)
    (hclock : t.clock.val ≤ s'.clock.val) : Watching T s last d (ls ++ [l]) s' := by
  cases h with
  | head hp hr => exact .head (hpolling.trans hp) (hreplies.trans hr)
  | looked hp hr hm => exact .looked (hpolling.trans hp) (hreplies.trans hr) (hm.snoc l)
  | asleep hp hr hd hw => exact .asleep (hpolling.trans hp) (hreplies.trans hr) hd (by omega)
  | changed hp hr hm => exact .changed (hpolling.trans hp) (hreplies.trans hr) (hm.snoc l)
  | expired hp hr hm hd =>
      exact .expired (hpolling.trans hp) (hreplies.trans hr) (hm.snoc l) (by omega)

/-- A step of the loop itself. -/
theorem Watching.watch (hrun : Run (pgraph (step T)) s ls t) (h : Watching T s last d ls t)
    (hw : t.Watches s') : Watching T s last d (ls ++ [.watch]) s' := by
  have hmet {P : ChannelState → Prop} (hP : P t.connectivity.state) : Met T s (ls ++ [.watch]) P :=
    ⟨ls, [.watch], t, rfl, hrun, hP⟩
  have hreply {r : PollReply} (hr : t.replies = s.replies) :
      (t.reply r).replies = s.replies ++ [r] := by
    rw [reply, hr]
  cases h with
  | head hp hr =>
      cases hw with
      | changed hp' hne =>
          obtain ⟨rfl, rfl⟩ := Polling.watching.inj (hp'.symm.trans hp)
          exact .changed rfl (hreply hr) (hmet hne)
      | same hp' heq =>
          obtain ⟨rfl, rfl⟩ := Polling.watching.inj (hp'.symm.trans hp)
          exact .looked rfl hr (hmet heq)
      | expired hp' | sleep hp' | wake hp' => cases hp.symm.trans hp'
  | looked hp hr hm =>
      cases hw with
      | expired hp' hle =>
          obtain ⟨rfl, rfl⟩ := Polling.looked.inj (hp'.symm.trans hp)
          exact .expired rfl (hreply hr) (hm.snoc _) hle
      | sleep hp' hlt =>
          obtain ⟨rfl, rfl⟩ := Polling.looked.inj (hp'.symm.trans hp)
          have hwait := waitUsec_eq hlt
          exact .asleep rfl hr (by omega) (by simp only; omega)
      | changed hp' | same hp' | wake hp' => cases hp.symm.trans hp'
  | asleep hp hr hd hwake =>
      cases hw with
      | wake hp' hle =>
          obtain ⟨rfl, rfl, rfl⟩ := Polling.sleeping.inj (hp'.symm.trans hp)
          exact .head rfl hr
      | changed hp' | same hp' | expired hp' | sleep hp' => cases hp.symm.trans hp'
  | changed hp | expired hp =>
      cases hw with
      | changed hp' | same hp' | expired hp' | sleep hp' | wake hp' => cases hp.symm.trans hp'

theorem Watching.step (hrun : Run (pgraph (step T)) s ls t) (h : Watching T s last d ls t)
    (hs : t.step T l = some s') (hl : l.isCall = false) : Watching T s last d (ls ++ [l]) s' := by
  cases moves_of_step hs with
  | replies _ _ hcall | connects _ _ hcall | enters _ _ _ hcall =>
      rw [hcall] at hl
      cases hl
  | spawns hp =>
      cases h with
      | head hp' | looked hp' | asleep hp' | changed hp' | expired hp' => cases hp.symm.trans hp'
  | watches hw => exact h.watch hrun hw
  | channel he hc => exact h.other _ rfl rfl le_rfl
  | ticks hle => exact h.other _ rfl rfl hle

/-- While it has not returned, it can go on, or it is asleep. -/
theorem Watching.enabled (h : Watching T s last d ls t) (hr : t.replies = s.replies) :
    (∃ t', t.step T .watch = some t')
      ∨ ∃ wake, t.clock.val < wake ∧ wake ≤ d.val ∧ wake ≤ t.clock.val + 10000 := by
  show (∃ t', t.watch = some t') ∨ _
  unfold Monitor.watch
  cases h with
  | head hp =>
      left
      simp only [hp]
      split <;> exact ⟨_, rfl⟩
  | looked hp =>
      left
      simp only [hp]
      split <;> exact ⟨_, rfl⟩
  | @asleep wake hp _ hd hw =>
      simp only [hp]
      by_cases hle : wake ≤ t.clock.val
      · exact .inl ⟨_, if_pos hle⟩
      · exact .inr ⟨wake, by omega, hd, hw⟩
  | changed _ hr' | expired _ hr' => simp [hr] at hr'

end Monitor

/-- A `watchConnectivityState` on an idle channel with one microsecond to go. -/
def Monitor.brief : Monitor := { polling := .watching I64.zero I64.one }

end GrpcPhp
