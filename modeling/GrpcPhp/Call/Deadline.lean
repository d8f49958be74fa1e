import GrpcPhp.Call.Metadata

/-!
# Deadlines and statuses

A call carries its deadline as absolute microseconds.  Values that are not positive
and the largest `i64` mean "no real deadline"; a clock reading is an argument
wherever the code reads the clock.
-/

namespace GrpcPhp

open Lib

/-- `StreamTrailers`: trailing metadata and status of a completed stream. -/
structure StreamTrailers where
  code : Int
  message : String
  metadata : MetadataMap
deriving DecidableEq, Repr

/-- `deadline_instant`: when the timer of a call fires, on the clock `now` is read
from.  Without a real deadline that is thirty years ahead. -/
def deadlineInstant (deadlineUsec now : I64) : Int :=
  if deadlineUsec.val ≤ 0 ∨ deadlineUsec = I64.max then
    now.val + 86400 * 365 * 30 * 1000000
  else now.val + max (deadlineUsec.saturatingSub now).val 0

/-- `deadline_exceeded_trailers`. -/
def deadlineExceededTrailers : StreamTrailers := ⟨4, "Deadline Exceeded", []⟩

/-- `deadline_already_expired`: a real deadline that has passed. -/
def deadlineAlreadyExpired (deadlineUsec now : I64) : Bool :=
  0 < deadlineUsec.val && deadlineUsec.val < I64.max.val && deadlineUsec.val ≤ now.val

/-- The timeout of a request in microseconds: what is left of a real deadline, and at
least one microsecond. -/
def requestTimeout (deadlineUsec now : I64) : Option Nat :=
  if deadlineUsec.val < I64.max.val ∧ 0 < deadlineUsec.val then
    some (max (deadlineUsec.saturatingSub now).val 1).toNat
  else none

/-- `status_to_php`: the code and message reported for a tonic status. -/
def statusToPhp (status : Status) (deadlineUsec now : I64) : Int × String :=
  if status.code = .cancelled ∧ (0 < deadlineUsec.val ∧ deadlineUsec.val < I64.max.val)
      ∧ deadlineUsec.val ≤ now.val then
    -- tonic reports an expired deadline as CANCELLED
    (4, "Deadline Exceeded")
  else if status.code = .unknown ∧ status.message = "transport error" then
    (14, "transport error")
  else (status.code.toInt, status.message)

/-- What is reported as UNAVAILABLE, whatever the clock says. -/
theorem statusToPhp_eq_unavailable_iff {status : Status} {deadlineUsec now : I64} :
    (statusToPhp status deadlineUsec now).1 = 14 ↔ status.code = .unavailable
      ∨ status.code = .unknown ∧ status.message = "transport error" := by
  unfold statusToPhp
  split_ifs with hx ht
  · simp [hx.1]
  · simp [ht]
  · simp only [ht, or_false]
    cases status.code <;> simp [Code.toInt]

/-- The code and message reported for a tonic status while no deadline has passed. -/
def Status.reported (status : Status) : Int × String :=
  if status.code = .unknown ∧ status.message = "transport error" then (14, "transport error")
  else (status.code.toInt, status.message)

/-- The clock matters only once the deadline has passed. -/
theorem statusToPhp_eq_reported {deadlineUsec now : I64} (status : Status)
    (h : deadlineAlreadyExpired deadlineUsec now = false) :
    statusToPhp status deadlineUsec now = status.reported := by
  refine if_neg fun hx ↦ ?_
  have : deadlineAlreadyExpired deadlineUsec now = true := by
    simp [deadlineAlreadyExpired, hx.2.1.1, hx.2.1.2, hx.2.2]
  cases h.symm.trans this

/-- A deadline that has not passed had not passed before. -/
theorem deadlineAlreadyExpired_mono {deadlineUsec now now' : I64} (hle : now.val ≤ now'.val)
    (h : deadlineAlreadyExpired deadlineUsec now' = false) :
    deadlineAlreadyExpired deadlineUsec now = false := by
  simp only [deadlineAlreadyExpired, Bool.and_eq_false_iff, decide_eq_false_iff_not] at h ⊢
  exact h.imp_right fun h hd ↦ h (hd.trans hle)

/-- The trailers reported for a tonic status. -/
def StreamTrailers.ofStatus (T : Tonic) (status : Status) (deadlineUsec now : I64) :
    StreamTrailers :=
  let p := statusToPhp status deadlineUsec now
  ⟨p.1, p.2, statusMetadataForPhp T status⟩

end GrpcPhp
