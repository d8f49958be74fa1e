import GrpcPhp.Channel.Connectivity

/-!
# The connectivity state on the two paths

`execute_call` and the driving task of a stream see the same three ends of a request that
was dispatched: a response, a status, or a deadline that passes while the channel is still
connecting.  Both write the connectivity state of the channel, each by its own rule.
`execute_call` looks at the code that is reported to PHP, and writes on every way out; the
task looks at the code of the status itself, and returns early when the deadline passes.
`sameState_iff` says for which ends the two rules agree.
-/

namespace GrpcPhp

open Lib Php

variable {T : Tonic}

/-- How a dispatched request ends. -/
inductive RequestOutcome where
  /-- The server responds. -/
  | response (metadata : MetadataMap) (body : Bytes)
  /-- The call itself gives a status. -/
  | status (st : Status)
  /-- The deadline passes while the channel is still connecting: in `ready()`, or, as with a
  channel that connects lazily, in the race around the request itself. -/
  | connectTimeout (inReady : Bool)

/-- The status tonic gives for a transport failure that it cannot classify. -/
def Status.IsTransportError (st : Status) : Prop :=
  st.code = .unknown ∧ st.message = "transport error"

instance (st : Status) : Decidable st.IsTransportError :=
  inferInstanceAs (Decidable (_ ∧ _))

namespace RequestOutcome

/-- The outcome as `execute_call` observes it. -/
def unary : RequestOutcome → UnaryOutcome
  | .response metadata body => .response metadata body
  | .status st => .status st
  | .connectTimeout inReady => if inReady then .readyElapsed else .deadline

/-- The outcome as the driving task of a stream observes it: the step it makes, and where. -/
def Observed (s : Sys) (answer : Answer) (act : Act) : RequestOutcome → Prop
  | .response metadata _ => act = .headers ∧ ∃ r, answer = .response r ∧ r.headers = metadata
  | .status st => act = .rejected ∧ answer = .rejected st
  | .connectTimeout inReady =>
      act = .deadline ∧ s.task.driver = if inReady then .connecting else .requesting

/-- The rule of `execute_call`. -/
def afterUnary : RequestOutcome → ChannelState
  | .response _ _ | .connectTimeout _ => .ready
  | .status st =>
      if st.code = .unavailable ∨ st.IsTransportError then .transientFailure else .ready

/-- The rule of the driving task. -/
def afterStream (previous : ChannelState) : RequestOutcome → ChannelState
  | .response _ _ => .ready
  | .status st => if st.code = .unavailable then .transientFailure else .ready
  | .connectTimeout _ => previous

/-- The two rules agree: the status is no unclassified transport failure, and a deadline
passes during the connection only while the state is `READY`. -/
def Agrees (previous : ChannelState) : RequestOutcome → Prop
  | .response _ _ => True
  | .status st => ¬ st.IsTransportError
  | .connectTimeout _ => previous = .ready

/-- Where the two rules agree. -/
theorem afterStream_eq_afterUnary_iff (previous : ChannelState) (o : RequestOutcome) :
    o.afterStream previous = o.afterUnary ↔ o.Agrees previous := by
  cases o with
  | response metadata body => simp [afterStream, afterUnary, Agrees]
  | connectTimeout inReady => simp [afterStream, afterUnary, Agrees]
  | status st =>
      -- an unclassified failure has code UNKNOWN, so that the task takes it for an answer
      by_cases ht : st.IsTransportError
      · simp [afterStream, afterUnary, Agrees, ht, ht.1]
      · by_cases hc : st.code = .unavailable
        · simp [afterStream, afterUnary, Agrees, ht, hc]
        · simp [afterStream, afterUnary, Agrees, ht, hc]

end RequestOutcome

section

variable {env : Env} {md ps : Pairs} {msg : Option Bytes} {w : World} {o : RequestOutcome}

/-- What `execute_call` records of a dispatched request. -/
theorem executeCall_dispatched (hshared : w.call.channelShared = true)
    (hbegins : env.begins w.call.deadlineUsec = true)
    (hpath : T.path w.call.method = .ok ()) (ho : env.unary = o.unary) :
    (executeCall T env md ps msg w).2.connectivity = o.afterUnary := by
  rw [executeCall_connectivity T env md ps msg hshared]
  simp only [hbegins, hpath, ho, if_true, connectivityAfter_result]
  cases o with
  | response metadata body => rfl
  | connectTimeout inReady => cases inReady <;> rfl
  | status st =>
      simp only [RequestOutcome.unary, statusToPhp_eq_unavailable_iff]
      rfl

/-- What the driving task of a stream records of it. -/
theorem Sys.driver_observed {s s' : Sys} {answer : Answer} {act : Act}
    (hshared : s.world.call.channelShared = true) (ho : o.Observed s answer act)
    (h : s.step T answer (.driver act) = some s') :
    s'.world.connectivity = o.afterStream s.world.connectivity := by
  rw [Sys.driver_connectivity h]
  cases o with
  | response metadata body =>
      obtain ⟨rfl, -⟩ := ho
      simp [Sys.answered, hshared, RequestOutcome.afterStream]
  | status st =>
      obtain ⟨rfl, rfl⟩ := ho
      simp [Sys.answered, hshared, RequestOutcome.afterStream]
  | connectTimeout inReady =>
      obtain ⟨rfl, -⟩ := ho
      simp [Sys.answered, RequestOutcome.afterStream]

/-- **A unary call and a stream record the same connectivity state** for the same end of a
dispatched request, whatever the deadlines and the clocks, exactly if the end is one on which
the two rules agree. -/
theorem sameState_iff {s s' : Sys} {answer : Answer} {act : Act}
    (hunary : w.call.channelShared = true) (hbegins : env.begins w.call.deadlineUsec = true)
    (hpath : T.path w.call.method = .ok ()) (ho : env.unary = o.unary)
    (hstream : s.world.call.channelShared = true)
    (hprevious : s.world.connectivity = w.connectivity) (ho' : o.Observed s answer act)
    (h : s.step T answer (.driver act) = some s') :
    s'.world.connectivity = (executeCall T env md ps msg w).2.connectivity
      ↔ o.Agrees w.connectivity := by
  rw [Sys.driver_observed hstream ho' h, executeCall_dispatched hunary hbegins hpath ho, hprevious]
  exact o.afterStream_eq_afterUnary_iff w.connectivity

end

/-- A stream of a fresh call whose task waits for the answer `answer`. -/
def Sys.awaiting (answer : Answer) : Sys :=
  { Sys.spawn answer true (World.fresh "/s/m" I64.max none .idle).call .idle .idle .one with
    task := { Task.spawn answer with driver := .requesting } }

/-- A status of the server: both paths record `READY`. -/
theorem sameState_iff_notFound :
    ∃ s', (Sys.awaiting (.rejected ⟨.notFound, "no", [], []⟩)).step Tonic.ascii
        (.rejected ⟨.notFound, "no", [], []⟩) (.driver .rejected) = some s' ∧
      s'.world.connectivity = (executeCall Tonic.ascii
        { Env.calm with unary := .status ⟨.notFound, "no", [], []⟩ } [] [] none
          (World.fresh "/s/m" I64.max none .idle)).2.connectivity := by
  obtain ⟨s', hs'⟩ : ∃ s', (Sys.awaiting (.rejected ⟨.notFound, "no", [], []⟩)).step Tonic.ascii
      (.rejected ⟨.notFound, "no", [], []⟩) (.driver .rejected) = some s' := ⟨_, rfl⟩
  refine ⟨s', hs', (sameState_iff (o := .status ⟨.notFound, "no", [], []⟩) rfl rfl rfl rfl rfl rfl
    ⟨rfl, rfl⟩ hs').mpr ?_⟩
  rintro ⟨hcode, -⟩
  cases hcode

/-- An unclassified transport failure: the unary call records `TRANSIENT_FAILURE`, and the
stream `READY`. -/
theorem differentState_transportError :
    ∃ s', (Sys.awaiting (.rejected ⟨.unknown, "transport error", [], []⟩)).step Tonic.ascii
        (.rejected ⟨.unknown, "transport error", [], []⟩) (.driver .rejected) = some s' ∧
      s'.world.connectivity = .ready ∧
      (executeCall Tonic.ascii
        { Env.calm with unary := .status ⟨.unknown, "transport error", [], []⟩ } [] [] none
          (World.fresh "/s/m" I64.max none .idle)).2.connectivity = .transientFailure :=
  ⟨_, rfl, rfl, rfl⟩

end GrpcPhp
