import GrpcPhp.Call.Step

/-!
# What a returned batch sets

The result object of a batch has the properties its receive operations ask for and no
others, on whichever path the batch was dispatched.
-/

namespace GrpcPhp

open Lib Php

variable {T : Tonic} {env : Env}

/-- The result has what the batch asks for, and nothing else. -/
structure BatchResult.Answers (r : BatchResult) (b : BatchOps) : Prop where
  metadata : r.metadata.isSome = b.recvInitialMetadata
  message : r.message.isSome = b.recvMessage
  status : r.status.isSome = b.recvStatus

/-- Without receive operations there is nothing to set. -/
theorem BatchOps.Consistent.answers_empty {b : BatchOps} (hb : b.Consistent)
    (hrecv : b.hasRecvOps = false) : BatchResult.Answers {} b := by
  have hflags := hb.recv
  rw [hrecv] at hflags
  simp only [Bool.false_eq, Bool.or_eq_false_iff] at hflags
  exact ⟨hflags.1.1.symm, hflags.1.2.symm, hflags.2.symm⟩

theorem streamResult_answers (d : I64) (b : BatchOps) (st : ActiveStream) :
    (streamResult T env d b st).1.Answers b := by
  refine ⟨?_, ?_, ?_⟩
  · simp only [streamResult, statusStage_metadata, messageStage_metadata, headersStage]
    cases b.recvInitialMetadata <;> rfl
  · simp only [streamResult, statusStage_message]
    simp only [messageStage]
    cases b.recvMessage <;> simp
  · simp only [streamResult, statusStage]
    cases b.recvStatus <;> simp

theorem buildUnaryResult_answers (b : BatchOps) (result : CallResult) :
    (buildUnaryResult T b.recvInitialMetadata b.recvMessage b.recvStatus result).Answers b := by
  refine ⟨?_, ?_, ?_⟩
  · cases hb : b.recvInitialMetadata <;> simp [buildUnaryResult]
  · cases hb : b.recvMessage <;> simp [buildUnaryResult]
  · cases hb : b.recvStatus <;> simp [buildUnaryResult]

/-- Every path through the dispatch. -/
theorem Dispatched.answers {b : BatchOps} {w w' : World} {r : BatchResult} (hb : b.Consistent)
    (h : Dispatched T env b w (.ok r) w') : r.Answers b := by
  generalize hres : (Except.ok r : Except PhpException BatchResult) = res at h
  cases h with
  | notForwarded | writePluginFailed | writeNotStarted | bufferPluginFailed | freshPluginFailed
  | serverNotStarted | notRead => cases hres
  | forwarded _ hrecv | buffered _ hrecv =>
      cases hres
      exact hb.answers_empty hrecv
  | @write _ _ r' _ _ _ _ hrecv | @split _ r' _ _ _ hrecv =>
      cases r' with
      | error => cases hres
      | ok u =>
          cases hres
          exact hb.answers_empty hrecv
  | read | server =>
      cases hres
      exact streamResult_answers _ _ _
  | @unary _ _ _ r' =>
      cases r' with
      | error => cases hres
      | ok res =>
          cases hres
          exact buildUnaryResult_answers b res

/-! ## Runs -/

/-- The batch and the result of an event. -/
@[simp] def Event.returns : Event → List (ZendHashTable × BatchResult)
  | .returned ops r => [(ops, r)]
  | _ => []

/-- The batches that returned so far, with their results. -/
abbrev World.returns : World → List (ZendHashTable × BatchResult) := World.observe Event.returns

theorem Updates.returns_eq {w w' : World} (h : Updates w w') : w'.returns = w.returns :=
  h.observe_eq fun e he ↦ by cases e <;> first | rfl | cases he

/-- One more batch that got what it asked for. -/
theorem answers_emit {w v : World} {ops : ZendHashTable} {b : BatchOps} {r : BatchResult}
    (ih : ∀ p ∈ w.returns, ∀ b ∈ (parseOps p.1).toOption, p.2.Answers b)
    (hv : v.returns = w.returns) (hp : parseOps ops = .ok b) (hr : r.Answers b) :
    ∀ p ∈ (v.emit (.returned ops r)).returns, ∀ b ∈ (parseOps p.1).toOption, p.2.Answers b := by
  intro p hmem b' hb'
  obtain hmem | rfl : p ∈ v.returns ∨ p = (ops, r) := by simpa [World.returns] using hmem
  · exact ih p (hv ▸ hmem) b' hb'
  · rw [hp] at hb'
    cases hb'
    exact hr

/-- **Every batch that returned got what it asked for, and nothing else.** -/
theorem answers_of_run {w w' : World} {acts : List Action} (h₀ : w.log = [])
    (h : Run (graph (step T)) w acts w') :
    ∀ p ∈ w'.returns, ∀ b ∈ (parseOps p.1).toOption, p.2.Answers b := by
  refine h.state_invariant (I := fun w' ↦ ∀ p ∈ w'.returns, ∀ b ∈ (parseOps p.1).toOption,
    p.2.Answers b) (by simp [World.observe, h₀]) ?_
  rintro w a _ ih rfl
  cases a with
  | setCredentials => exact ih
  | cancel => exact ih
  | closeChannel => exact ih
  | startBatch env ops =>
      obtain ⟨r, w', hb, hstep⟩ := step_startBatch_cases T env ops w
      rw [hstep]
      cases hb with
      | rejected => simpa [World.settle, World.returns] using ih
      | empty h =>
          obtain ⟨b, hp, -, hrecv⟩ := admission_none h
          exact answers_emit ih rfl hp ((parseOps_consistent hp).answers_empty hrecv)
      | raised _ hd => simpa [World.settle, World.returns, hd.updates.returns_eq] using ih
      | returned ha hd =>
          have hr := hd.answers ha.consistent
          exact answers_emit ih hd.updates.returns_eq ha.parsed ⟨hr.metadata, hr.message, hr.status⟩

/-! ## The properties of the results -/

section Part

variable {α : Type}

/-- A property of the results in the log. -/
@[simp] def Event.part (f : BatchResult → Option α) : Event → List α
  | .returned _ r => (f r).toList
  | _ => []

/-- The headers PHP got so far. -/
abbrev World.headers : World → List MetadataEntries :=
  World.observe (Event.part BatchResult.metadata)

/-- The messages PHP got so far; a null message is `none`. -/
abbrev World.reads : World → List (Option Bytes) := World.observe (Event.part BatchResult.message)

/-- The statuses PHP got so far. -/
abbrev World.statuses : World → List PhpStatus := World.observe (Event.part BatchResult.status)

/-- A property that the receive operations set, and nothing else. -/
structure Received (f : BatchResult → Option α) : Prop where
  empty : f {} = none
  ack (r : BatchResult) (b : BatchOps) : f (r.ack b) = f r

theorem received_metadata : Received BatchResult.metadata := ⟨rfl, fun _ _ ↦ rfl⟩

theorem received_message : Received BatchResult.message := ⟨rfl, fun _ _ ↦ rfl⟩

theorem received_status : Received BatchResult.status := ⟨rfl, fun _ _ ↦ rfl⟩

end Part

end GrpcPhp
