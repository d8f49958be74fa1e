import GrpcPhp.Lib.Saturating

/-!
# Extended integers in a bounded type

The two ends of a bounded integer type can stand for the infinities.  `Sat.extended` reads
a bounded integer that way and `Extended.saturate` writes an extended one back, with
whatever does not fit at the end of its sign.

Saturating arithmetic is not extended arithmetic: an end that is the *right* operand is
an ordinary number to it, so it pulls the result to an end only from one side.
`Sat.saturatingAdd_eq_iff` and `Sat.saturatingSub_eq_iff` say from which.
-/

namespace GrpcPhp.Lib

/-- An integer or an infinity. -/
inductive Extended where
  | negInf
  | fin (n : Int)
  | posInf
deriving DecidableEq, Repr

namespace Extended

/-- Addition.  An infinite left operand is the result, whatever the right one is. -/
protected def add : Extended → Extended → Extended
  | .negInf, _ => .negInf
  | .posInf, _ => .posInf
  | .fin _, .negInf => .negInf
  | .fin _, .posInf => .posInf
  | .fin m, .fin n => .fin (m + n)

/-- Negation. -/
protected def neg : Extended → Extended
  | .negInf => .posInf
  | .fin n => .fin (-n)
  | .posInf => .negInf

/-- Subtraction, with the rule of addition for an infinite left operand. -/
protected def sub (x y : Extended) : Extended := x.add y.neg

variable {lo hi : Int}

/-- The element of a bounded type that stands for an extended integer: the bounds for the
infinities and for what is out of range. -/
def saturate (h : lo ≤ hi) : Extended → Sat lo hi
  | .negInf => ⟨lo, le_refl lo, h⟩
  | .fin n => Sat.clamp h n
  | .posInf => ⟨hi, h, le_refl hi⟩

end Extended

namespace Sat

variable {lo hi : Int} {a b : Sat lo hi}

/-- A bounded integer whose bounds are read as the infinities. -/
def extended (a : Sat lo hi) : Extended :=
  if a.val = hi then .posInf else if a.val = lo then .negInf else .fin a.val

/-- The upper bound is read as the positive infinity. -/
theorem extended_of_eq_hi (h : a.val = hi) : a.extended = .posInf := if_pos h

/-- The lower bound is read as the negative infinity, unless it is also the upper one. -/
theorem extended_of_eq_lo (hne : lo ≠ hi) (h : a.val = lo) : a.extended = .negInf := by
  rw [extended, if_neg (by rwa [h]), if_pos h]

/-- A value between the bounds is read as itself. -/
theorem extended_of_ne (hlo : a.val ≠ lo) (hhi : a.val ≠ hi) : a.extended = .fin a.val := by
  rw [extended, if_neg hhi, if_neg hlo]

/-- A value between the bounds keeps them apart. -/
theorem lo_lt_hi (a : Sat lo hi) (hlo : a.val ≠ lo) (hhi : a.val ≠ hi) : lo < hi :=
  (lt_of_le_of_ne a.lo_le hlo.symm).trans (lt_of_le_of_ne a.le_hi hhi)

/-- What is read is written back. -/
theorem saturate_extended (a : Sat lo hi) (h : lo ≤ hi) : a.extended.saturate h = a := by
  unfold extended
  split_ifs with hhi hlo
  · ext
    exact hhi.symm
  · ext
    exact hlo.symm
  · exact a.clamp_val h

/-- **Saturating and extended addition.**  They differ only for a right operand at a bound,
and then only if the left one has the other sign. -/
theorem saturatingAdd_eq_iff (hlo : a.val ≠ lo) (hhi : a.val ≠ hi) (h : lo ≤ hi) :
    a.saturatingAdd b = (a.extended.add b.extended).saturate h
      ↔ (b.val = hi → 0 ≤ a.val) ∧ (b.val = lo → a.val ≤ 0) := by
  have hlt : lo < hi := a.lo_lt_hi hlo hhi
  rw [extended_of_ne hlo hhi, Sat.ext_iff, val_saturatingAdd]
  by_cases hb : b.val = hi
  · rw [extended_of_eq_hi hb, Extended.add, Extended.saturate, max_min_eq_hi_iff hlt]
    omega
  by_cases hb' : b.val = lo
  · rw [extended_of_eq_lo hlt.ne hb', Extended.add, Extended.saturate, max_min_eq_lo_iff hlt]
    omega
  · rw [extended_of_ne hb' hb, Extended.add, Extended.saturate, val_clamp]
    simp [hb, hb']

/-- **Saturating and extended subtraction.**  They differ only for a right operand at a
bound, and then only if the left one is on the other side of `lo + hi`. -/
theorem saturatingSub_eq_iff (hlo : a.val ≠ lo) (hhi : a.val ≠ hi) (h : lo ≤ hi) :
    a.saturatingSub b = (a.extended.sub b.extended).saturate h
      ↔ (b.val = hi → a.val ≤ lo + hi) ∧ (b.val = lo → lo + hi ≤ a.val) := by
  have hlt : lo < hi := a.lo_lt_hi hlo hhi
  rw [extended_of_ne hlo hhi, Sat.ext_iff, val_saturatingSub]
  by_cases hb : b.val = hi
  · rw [extended_of_eq_hi hb, Extended.sub, Extended.neg, Extended.add, Extended.saturate,
      max_min_eq_lo_iff hlt]
    omega
  by_cases hb' : b.val = lo
  · rw [extended_of_eq_lo hlt.ne hb', Extended.sub, Extended.neg, Extended.add,
      Extended.saturate, max_min_eq_hi_iff hlt]
    omega
  · rw [extended_of_ne hb' hb, Extended.sub, Extended.neg, Extended.add, Extended.saturate,
      val_clamp, ← sub_eq_add_neg]
    simp [hb, hb']

end Sat

end GrpcPhp.Lib
