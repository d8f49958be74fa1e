import Mathlib.Order.Lattice
import Mathlib.Algebra.Order.Ring.Int
import Mathlib.Algebra.Order.Group.MinMax

/-!
# Bounded integers with saturating arithmetic

`Sat lo hi` is the type of integers between `lo` and `hi`, bounds included.  The
bounds travel with the value, so a machine integer that is out of range cannot be
built, and an operation that could leave the range has to say what it does there:
`clamp` goes to the nearest bound.
-/

namespace GrpcPhp.Lib

/-- An integer between `lo` and `hi`. -/
@[ext]
structure Sat (lo hi : Int) where
  /-- The integer itself. -/
  val : Int
  /-- It is not below the lower bound. -/
  lo_le : lo ≤ val
  /-- It is not above the upper bound. -/
  le_hi : val ≤ hi
deriving DecidableEq, Repr

namespace Sat

variable {lo hi : Int}

/-- The element of the range nearest to `x`. -/
def clamp (h : lo ≤ hi) (x : Int) : Sat lo hi :=
  ⟨max lo (min hi x), le_max_left _ _, max_le h (min_le_left _ _)⟩

/-- The element of the range that is `x`, when there is one. -/
def ofInt? (x : Int) : Option (Sat lo hi) :=
  if h : lo ≤ x ∧ x ≤ hi then some ⟨x, h.1, h.2⟩ else none

/-- Subtraction that stops at the bounds. -/
def saturatingSub (a b : Sat lo hi) : Sat lo hi :=
  clamp (le_trans a.lo_le a.le_hi) (a.val - b.val)

/-- Addition that stops at the bounds. -/
def saturatingAdd (a b : Sat lo hi) : Sat lo hi :=
  clamp (le_trans a.lo_le a.le_hi) (a.val + b.val)

/-- The absolute value, stopped at the bounds. -/
def saturatingAbs (a : Sat lo hi) : Sat lo hi := clamp (le_trans a.lo_le a.le_hi) |a.val|

/-- The integer nearest to `x` in the range. -/
@[simp] theorem val_clamp (h : lo ≤ hi) (x : Int) : (clamp h x).val = max lo (min hi x) := rfl

/-- The difference, cut off at the bounds. -/
@[simp] theorem val_saturatingSub (a b : Sat lo hi) :
    (a.saturatingSub b).val = max lo (min hi (a.val - b.val)) := rfl

/-- The sum, cut off at the bounds. -/
@[simp] theorem val_saturatingAdd (a b : Sat lo hi) :
    (a.saturatingAdd b).val = max lo (min hi (a.val + b.val)) := rfl

/-- The upper bound is reached from above. -/
theorem max_min_eq_hi_iff {x : Int} (h : lo < hi) : max lo (min hi x) = hi ↔ hi ≤ x := by
  rw [max_def, min_def]
  split_ifs <;> omega

/-- The lower bound is reached from below. -/
theorem max_min_eq_lo_iff {x : Int} (h : lo < hi) : max lo (min hi x) = lo ↔ x ≤ lo := by
  rw [max_def, min_def]
  split_ifs <;> omega

/-- The absolute value, cut off at the bounds. -/
@[simp] theorem val_saturatingAbs (a : Sat lo hi) :
    a.saturatingAbs.val = max lo (min hi |a.val|) := rfl

/-- Cutting two integers off brings them no further apart. -/
theorem abs_clamp_sub_clamp_le (h : lo ≤ hi) (x y : Int) :
    |(clamp h x).val - (clamp h y).val| ≤ |x - y| := by
  rw [val_clamp, val_clamp, max_comm lo, max_comm lo, min_comm hi, min_comm hi]
  calc |max (min x hi) lo - max (min y hi) lo|
      ≤ |min x hi - min y hi| := abs_max_sub_max_le_abs _ _ _
    _ ≤ max |x - y| |hi - hi| := abs_min_sub_min_le_max _ _ _ _
    _ = |x - y| := by rw [sub_self, abs_zero, max_eq_left (abs_nonneg _)]

/-- Inside the range nothing is cut off. -/
theorem clamp_val (a : Sat lo hi) (h : lo ≤ hi) : clamp h a.val = a := by
  ext
  rw [val_clamp, min_eq_right a.le_hi, max_eq_right a.lo_le]

end Sat

/-- A signed 64-bit integer. -/
abbrev I64 := Sat (-2 ^ 63) (2 ^ 63 - 1)

namespace I64

/-- The largest signed 64-bit integer. -/
def max : I64 := ⟨2 ^ 63 - 1, by decide, by decide⟩

/-- The smallest signed 64-bit integer. -/
def min : I64 := ⟨-2 ^ 63, by decide, by decide⟩

/-- There are signed 64-bit integers. -/
theorem bounds : (-2 ^ 63 : Int) ≤ 2 ^ 63 - 1 := by decide

/-- The upper bound, as an integer. -/
theorem val_max : max.val = 2 ^ 63 - 1 := rfl

/-- The lower bound, as an integer. -/
theorem val_min : min.val = -2 ^ 63 := rfl

/-- `f64 as i64`: rounded towards zero and cut off at the bounds, with zero for what is
not a number. -/
def ofFloat (d : Float) : I64 := ⟨d.toInt64.toInt, d.toInt64.le_toInt, d.toInt64.toInt_le⟩

/-- A literal that is known to be in range. -/
def ofInt (x : Int) (h₁ : -2 ^ 63 ≤ x := by decide) (h₂ : x ≤ 2 ^ 63 - 1 := by decide) : I64 :=
  ⟨x, h₁, h₂⟩

theorem lo_le_zero : (-2 ^ 63 : Int) ≤ 0 := by decide

theorem zero_le_hi : (0 : Int) ≤ 2 ^ 63 - 1 := by decide

/-- The number zero. -/
def zero : I64 := .ofInt 0 lo_le_zero zero_le_hi

/-- The number one. -/
def one : I64 := .ofInt 1

end I64

end GrpcPhp.Lib
