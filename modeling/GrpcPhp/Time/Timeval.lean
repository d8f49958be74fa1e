import GrpcPhp.Lib.Extended
import GrpcPhp.Php.Error

/-!
# `Grpc\Timeval`

The time values of `timeval.rs`.  A value is a number of microseconds and a tag that says
what it counts: a span counts from whenever it is used, an absolute time from the epoch.
The largest and the smallest `i64` are the two infinities.

A clock reading is an argument wherever the code reads the clock.
-/

namespace GrpcPhp

open Lib Php

/-- `GrpcTimeval`. -/
structure GrpcTimeval where
  usec : I64
  isSpan : Bool
deriving DecidableEq, Repr

namespace GrpcTimeval

/-- `__construct`: a span, from an integer or a float. -/
def construct (usec : Zval) : Except PhpException GrpcTimeval :=
  match usec.long? with
  | some l => .ok ⟨l, true⟩
  | none =>
      match usec.double? with
      | some d => .ok ⟨I64.ofFloat d, true⟩
      | none => .error (invalidArgument "Timeval expects a numeric microseconds value")

/-- `now`: the absolute time on the clock, or the error of reading it. -/
def now (clock : Except String I64) : Except PhpException GrpcTimeval :=
  (clock.mapError PhpException.default).map fun usec ↦ ⟨usec, false⟩

/-- `inf_future`. -/
def infFuture : GrpcTimeval := ⟨I64.max, false⟩

/-- `inf_past`. -/
def infPast : GrpcTimeval := ⟨I64.min, false⟩

/-- `zero`. -/
def zero : GrpcTimeval := ⟨I64.zero, true⟩

/-- Whether the microseconds are one of the two infinities. -/
def isInfinite (a : GrpcTimeval) : Bool := a.usec = I64.max || a.usec = I64.min

/-- `to_absolute_usec`: a finite span counts from `now`. -/
def toAbsoluteUsec (a : GrpcTimeval) (now : I64) : I64 :=
  if !a.isSpan || a.isInfinite then a.usec else now.saturatingAdd a.usec

/-- `compare`. -/
def compare (a b : GrpcTimeval) : Int :=
  if a.usec.val < b.usec.val then -1 else if a.usec.val = b.usec.val then 0 else 1

/-- What `add` and `subtract` share: an infinite left operand is the result, and the result
is a span if both operands are. -/
def combine (op : I64 → I64 → I64) (a b : GrpcTimeval) : GrpcTimeval :=
  if a.isInfinite then ⟨a.usec, a.isSpan⟩ else ⟨op a.usec b.usec, a.isSpan && b.isSpan⟩

/-- `add`. -/
def add : GrpcTimeval → GrpcTimeval → GrpcTimeval := combine Sat.saturatingAdd

/-- `subtract`. -/
def subtract : GrpcTimeval → GrpcTimeval → GrpcTimeval := combine Sat.saturatingSub

variable {a b : GrpcTimeval} {op : I64 → I64 → I64}

/-- The infinities, by their microseconds. -/
theorem isInfinite_iff : a.isInfinite = true ↔ a.usec.val = 2 ^ 63 - 1 ∨ a.usec.val = -2 ^ 63 := by
  simp [isInfinite, Sat.ext_iff, I64.val_max, I64.val_min]

/-- A finite value is strictly between the infinities. -/
theorem finite_iff :
    a.isInfinite = false ↔ a.usec.val ≠ 2 ^ 63 - 1 ∧ a.usec.val ≠ -2 ^ 63 := by
  rw [← Bool.not_eq_true, isInfinite_iff, not_or]

/-- An infinite left operand absorbs the right one. -/
theorem combine_of_infinite (h : a.isInfinite = true) : combine op a b = a := if_pos h

/-- A finite left operand is combined. -/
theorem combine_of_finite (h : a.isInfinite = false) :
    combine op a b = ⟨op a.usec b.usec, a.isSpan && b.isSpan⟩ := if_neg (by simp [h])

/-- An absolute time is its own deadline. -/
theorem toAbsoluteUsec_of_absolute {now : I64} (h : a.isSpan = false) :
    a.toAbsoluteUsec now = a.usec := if_pos (by simp [h])

/-- An infinite value is its own deadline, whatever its kind. -/
theorem toAbsoluteUsec_of_infinite {now : I64} (h : a.isInfinite = true) :
    a.toAbsoluteUsec now = a.usec := if_pos (by simp [h])

/-- A finite span counts from the clock reading. -/
theorem toAbsoluteUsec_of_span {now : I64} (h : a.isSpan = true) (hfin : a.isInfinite = false) :
    a.toAbsoluteUsec now = now.saturatingAdd a.usec := if_neg (by simp [h, hfin])

/-- `compare` orders by the microseconds. -/
theorem compare_le_zero_iff : compare a b ≤ 0 ↔ a.usec.val ≤ b.usec.val := by
  unfold compare
  split_ifs <;> omega

end GrpcTimeval

end GrpcPhp
