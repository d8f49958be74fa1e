import GrpcPhp.Time.Timeval

/-!
# Infinite operands of `add` and `subtract`

The source says that time arithmetic saturates at the infinities.  It does when the left
operand is infinite, which is tested for.  An infinite right operand is an ordinary
summand to the saturating addition, so it makes the result infinite only from one side:
`0 - infFuture` is `-i64::MAX`, one microsecond away from `infPast` and a finite time to
everything that looks at it later.

`Link.Absorbs` is the condition under which a step computes the extended-integer result.
Once a chain of steps is at an infinity it stays there (`chain_of_infinite`).
-/

namespace GrpcPhp

open Lib

namespace GrpcTimeval

/-- A method call in a chain: `->add(t)` or `->subtract(t)`. -/
inductive Link where
  | add (t : GrpcTimeval)
  | subtract (t : GrpcTimeval)
deriving DecidableEq, Repr

namespace Link

/-- The operand of a link. -/
def operand : Link → GrpcTimeval
  | .add t | .subtract t => t

/-- What a link does to the value before it. -/
def apply : Link → GrpcTimeval → GrpcTimeval
  | .add t, a => a.add t
  | .subtract t, a => a.subtract t

/-- The microseconds a link should give, in extended integers. -/
def extended : Link → GrpcTimeval → I64
  | .add t, a => (a.usec.extended.add t.usec.extended).saturate I64.bounds
  | .subtract t, a => (a.usec.extended.sub t.usec.extended).saturate I64.bounds

/-- The saturating operation pulls the value before the link to the infinity it should go
to: that value is infinite itself, or it is on the right side of an infinite operand. -/
def Absorbs : Link → GrpcTimeval → Prop
  | .add t, a => a.isInfinite = false →
      (t.usec = I64.max → 0 ≤ a.usec.val) ∧ (t.usec = I64.min → a.usec.val ≤ 0)
  | .subtract t, a => a.isInfinite = false →
      (t.usec = I64.max → a.usec.val ≤ -1) ∧ (t.usec = I64.min → -1 ≤ a.usec.val)

variable {l : Link} {a : GrpcTimeval}

/-- An infinite value is not changed by a link. -/
theorem apply_of_infinite (h : a.isInfinite = true) : l.apply a = a := by
  cases l with
  | add t => exact combine_of_infinite h
  | subtract t => exact combine_of_infinite h

/-- Extended arithmetic does not change an infinite value either. -/
theorem extended_of_infinite (h : a.isInfinite = true) : l.extended a = a.usec := by
  have hsat : ∀ x : Extended, a.usec.extended.add x = a.usec.extended := by
    intro x
    rcases isInfinite_iff.mp h with h | h
    · rw [Sat.extended_of_eq_hi h, Extended.add]
    · rw [Sat.extended_of_eq_lo (by decide) h, Extended.add]
  cases l with
  | add t => rw [extended, hsat, Sat.saturate_extended]
  | subtract t => rw [extended, Extended.sub, hsat, Sat.saturate_extended]

/-- **One step.**  A link gives the extended-integer result exactly if it absorbs. -/
theorem apply_usec_eq_iff : (l.apply a).usec = l.extended a ↔ l.Absorbs a := by
  cases h : a.isInfinite with
  | true =>
      rw [apply_of_infinite h, extended_of_infinite h]
      cases l <;> simp [Absorbs, h]
  | false =>
      obtain ⟨hhi, hlo⟩ := finite_iff.mp h
      cases l with
      | add t =>
          rw [apply, GrpcTimeval.add, combine_of_finite h, extended, Absorbs,
            Sat.saturatingAdd_eq_iff hlo hhi]
          simp [h, Sat.ext_iff, I64.val_max, I64.val_min]
      | subtract t =>
          rw [apply, GrpcTimeval.subtract, combine_of_finite h, extended, Absorbs,
            Sat.saturatingSub_eq_iff hlo hhi]
          simp [h, Sat.ext_iff, I64.val_max, I64.val_min]

/-- A link with an infinite operand gives an infinity exactly if it absorbs. -/
theorem apply_isInfinite_iff (hinf : l.operand.isInfinite = true) :
    (l.apply a).isInfinite = true ↔ l.Absorbs a := by
  cases h : a.isInfinite with
  | true =>
      rw [apply_of_infinite h]
      cases l <;> simp [Absorbs, h]
  | false =>
      obtain ⟨hhi, hlo⟩ := finite_iff.mp h
      have h₁ := a.usec.lo_le
      have h₂ := a.usec.le_hi
      have hmax : ∀ {x : I64}, x = I64.max ↔ x.val = 2 ^ 63 - 1 := Sat.ext_iff
      have hmin : ∀ {x : I64}, x = I64.min ↔ x.val = -2 ^ 63 := Sat.ext_iff
      cases l with
      | add t =>
          have ht := isInfinite_iff.mp hinf
          simp only [operand] at ht
          rw [apply, GrpcTimeval.add, combine_of_finite h, isInfinite_iff, Absorbs,
            Sat.val_saturatingAdd, Sat.max_min_eq_hi_iff (by decide),
            Sat.max_min_eq_lo_iff (by decide), hmax, hmin]
          simp only [h, true_implies]
          omega
      | subtract t =>
          have ht := isInfinite_iff.mp hinf
          simp only [operand] at ht
          rw [apply, GrpcTimeval.subtract, combine_of_finite h, isInfinite_iff, Absorbs,
            Sat.val_saturatingSub, Sat.max_min_eq_hi_iff (by decide),
            Sat.max_min_eq_lo_iff (by decide), hmax, hmin]
          simp only [h, true_implies]
          omega

end Link

/-- A chain of method calls. -/
def chain (a : GrpcTimeval) (links : List Link) : GrpcTimeval :=
  links.foldl (fun t l ↦ l.apply t) a

variable {a : GrpcTimeval}

/-- A chain that goes on. -/
theorem chain_append (pre post : List Link) : a.chain (pre ++ post) = (a.chain pre).chain post :=
  List.foldl_append

/-- **A whole chain.**  An infinity stays what it is. -/
theorem chain_of_infinite (h : a.isInfinite = true) (links : List Link) : a.chain links = a := by
  induction links with
  | nil => rfl
  | cons l links ih =>
      rw [← List.singleton_append, chain_append]
      change (l.apply a).chain links = a
      rw [Link.apply_of_infinite h, ih]

/-- **Infinities absorb from one side.**  `add` and `subtract` compute the extended-integer
result exactly if the left operand is infinite, or on the side of an infinite right
operand.  In a chain, an infinite operand makes the value infinite under the same
condition, and from then on the value does not change. -/
theorem extended_iff_absorbs (a : GrpcTimeval) (l : Link) :
    ((l.apply a).usec = l.extended a ↔ l.Absorbs a)
      ∧ ∀ pre post : List Link, l.operand.isInfinite = true →
        ((a.chain (pre ++ [l])).isInfinite = true ↔ l.Absorbs (a.chain pre))
        ∧ (l.Absorbs (a.chain pre) → a.chain (pre ++ l :: post) = a.chain (pre ++ [l])) := by
  refine ⟨Link.apply_usec_eq_iff, fun pre post hinf ↦ ?_⟩
  have hstep : a.chain (pre ++ [l]) = l.apply (a.chain pre) := chain_append pre [l]
  have hiff : (a.chain (pre ++ [l])).isInfinite = true ↔ l.Absorbs (a.chain pre) := by
    rw [hstep, Link.apply_isInfinite_iff hinf]
  refine ⟨hiff, fun h ↦ ?_⟩
  rw [List.append_cons, chain_append, chain_of_infinite (hiff.mpr h)]

/-- Zero plus the infinite future is infinite, and the infinite past does not change that. -/
theorem chain_through_infFuture :
    zero.isInfinite = false ∧ (zero.chain [.add infFuture, .add infPast]).usec = I64.max := by
  refine ⟨by decide, ?_⟩
  obtain ⟨-, hstay⟩ := (extended_iff_absorbs zero (.add infFuture)).2 [] [.add infPast] (by decide)
  rw [← List.nil_append (Link.add infFuture :: _), hstay fun _ ↦ ⟨by decide, by decide⟩]
  decide

/-- Zero minus the infinite future is not the infinite past but a finite time, and adding
the infinite future to that gives zero again. -/
theorem zero_subtract_infFuture :
    zero.isInfinite = false ∧ (zero.subtract infFuture).isInfinite = false
      ∧ (Link.subtract infFuture).extended zero = I64.min
      ∧ (zero.subtract infFuture).usec.val = -2 ^ 63 + 1
      ∧ (zero.chain [.subtract infFuture, .add infFuture]).usec.val = 0 := by decide

end GrpcTimeval

end GrpcPhp
