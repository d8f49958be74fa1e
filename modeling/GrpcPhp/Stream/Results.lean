import GrpcPhp.Call.Returned
import GrpcPhp.Stream.Channels

/-!
# What the batches return

The results of the batches are in the log, and the one of the batch in progress is with
the PHP thread.  `Sys.collect` puts them together for one property of the result object,
so that a result does not seem to appear when the batch returns: it is there once the
stage of `build_stream_result` that sets it has run.
-/

namespace GrpcPhp

open Lib Php

variable {T : Tonic} {answer : Answer} {α : Type} {f : BatchResult → Option α}

/-! ## The batch in progress -/

namespace Sys

/-- A property of the results so far, that of the batch in progress included. -/
def collect (f : BatchResult → Option α) (s : Sys) : List α :=
  s.world.observe (Event.part f) ++ (f s.php.result).toList

/-- The headers PHP got so far. -/
abbrev headers : Sys → List MetadataEntries := collect BatchResult.metadata

/-- The messages PHP got so far. -/
abbrev reads : Sys → List (Option Bytes) := collect BatchResult.message

variable {s s' : Sys} {j : Batch}

theorem afterSend_result (s : Sys) (j : Batch) : (s.afterSend j).php.result = {} := by
  rcases s.afterSend_php j with h | h <;> rw [h] <;> rfl

theorem observe_raise (e : PhpException) : (s.raise e).world.observe (Event.part f)
    = s.world.observe (Event.part f) := by
  simp [Sys.raise]

theorem observe_complete (hf : Received f) (j : Batch) (r : BatchResult) :
    (s.complete j r).world.observe (Event.part f)
      = s.world.observe (Event.part f) ++ (f r).toList := by
  simp [Sys.complete, hf.ack]

theorem observe_afterSend (hf : Received f) (j : Batch) :
    (s.afterSend j).world.observe (Event.part f) = s.world.observe (Event.part f) := by
  unfold Sys.afterSend
  dsimp only
  split
  · rfl
  · rw [observe_complete hf, hf.empty]
    simp

/-- The start of a batch returns nothing. -/
theorem Enters.observe_eq (hf : Received f) {ops : ZendHashTable} (he : s.Enters ops s') :
    s'.world.observe (Event.part f) = s.world.observe (Event.part f) := by
  cases he with
  | refused => exact observe_raise _
  | empty => simp [hf.empty]
  | noSender => exact observe_raise _
  | sends => rfl
  | passes => exact observe_afterSend hf _

/-- The start of a batch has an empty result. -/
theorem Enters.result_eq {ops : ZendHashTable} (hp : s.php = .idle) (he : s.Enters ops s') :
    s'.php.result = {} := by
  cases he with
  | refused | noSender | sends => rfl
  | empty => simp [hp, Thread.result]
  | passes => exact afterSend_result _ _

theorem collect_raise (hf : Received f) (e : PhpException) :
    (s.raise e).collect f = s.world.observe (Event.part f) := by
  simp [collect, Sys.raise, Thread.result, hf.empty]

theorem collect_complete (hf : Received f) (j : Batch) (r : BatchResult) :
    (s.complete j r).collect f = s.world.observe (Event.part f) ++ (f r).toList := by
  rw [collect, observe_complete hf]
  simp [Sys.complete, Thread.result, hf.empty]

theorem collect_afterSend (hf : Received f) (j : Batch) :
    (s.afterSend j).collect f = s.world.observe (Event.part f) := by
  rw [collect, observe_afterSend hf, afterSend_result, hf.empty]
  simp

/-- A failed send returns nothing. -/
theorem collect_sendFailed (hf : Received f) {m : Bytes} (h : s.php = .sending j m)
    (e : PhpException) : (s.raise e).collect f = s.collect f := by
  rw [collect_raise hf, collect, h]
  simp [Thread.result, hf.empty]

/-- A send returns nothing. -/
theorem collect_sent (hf : Received f) {m : Bytes} {q : List Bytes} (h : s.php = .sending j m) :
    ({ s with requests := q, world := s.world.emit (.message m) }.afterSend j).collect f
      = s.collect f := by
  rw [collect_afterSend hf, collect, h]
  simp [Thread.result, hf.empty]

/-- The end of a batch returns what it has. -/
theorem collect_gotStatus (hf : Received f) {r : BatchResult} (h : s.php.result = r)
    {trailers : Option StreamTrailers}
    (hs : f (statusStage T trailers j.parsed (r, s.stream)).1 = f r) :
    (s.gotStatus T j r trailers).collect f = s.collect f := by
  rw [Sys.gotStatus, collect_complete hf, hs, collect, h]

/-- The start of a batch returns nothing. -/
theorem Enters.collect_eq (hf : Received f) {ops : ZendHashTable} (hp : s.php = .idle)
    (he : s.Enters ops s') : s'.collect f = s.collect f := by
  rw [collect, he.observe_eq hf, he.result_eq hp, collect, hp]
  rfl

end Sys

end GrpcPhp
