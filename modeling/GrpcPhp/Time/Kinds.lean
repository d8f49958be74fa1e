import GrpcPhp.Time.Timeval

/-!
# Durations and instants

A span stands for a duration and an absolute time for an instant.  Instants and durations
have an arithmetic of their own: the difference of two instants is a duration, and two
instants have no sum.  `Quantity` is that arithmetic and `TimeExpr.meaning` the reading of
an expression of `add` and `subtract` in it.

The code computes the right number but tags it by one rule for both operations: the result
is a span if both operands are.  So the difference of two absolute times is tagged absolute,
and used as a deadline it is an instant shortly after the epoch.  The tag is right if the
expression denotes an instant, or if it is built from spans alone
(`TimeExpr.toAbsoluteUsec_eq_iff`).
-/

namespace GrpcPhp

open Lib

/-! ## The arithmetic of durations and instants -/

/-- A duration, or an instant on the clock. -/
inductive Quantity where
  | duration (usec : Int)
  | instant (usec : Int)
deriving DecidableEq, Repr

namespace Quantity

/-- The number of microseconds, from the epoch for an instant. -/
def usec : Quantity → Int
  | .duration x | .instant x => x

/-- Whether the quantity is a duration. -/
def isDuration : Quantity → Bool
  | .duration _ => true
  | .instant _ => false

/-- The sum of two quantities; two instants have none. -/
protected def add : Quantity → Quantity → Option Quantity
  | .duration x, .duration y => some (.duration (x + y))
  | .duration x, .instant y => some (.instant (x + y))
  | .instant x, .duration y => some (.instant (x + y))
  | .instant _, .instant _ => none

/-- The difference of two quantities; an instant cannot be taken from a duration. -/
protected def sub : Quantity → Quantity → Option Quantity
  | .duration x, .duration y => some (.duration (x - y))
  | .duration _, .instant _ => none
  | .instant x, .duration y => some (.instant (x - y))
  | .instant x, .instant y => some (.duration (x - y))

/-- The instant a quantity names as a deadline: a duration counts from `now`. -/
def deadline (now : Int) : Quantity → Int
  | .duration x => now + x
  | .instant x => x

variable {x y q : Quantity}

/-- The number of a sum is the sum of the numbers. -/
theorem usec_add (h : x.add y = some q) : q.usec = x.usec + y.usec := by
  cases x <;> cases y <;> cases h <;> rfl

/-- The number of a difference is the difference of the numbers. -/
theorem usec_sub (h : x.sub y = some q) : q.usec = x.usec - y.usec := by
  cases x <;> cases y <;> cases h <;> rfl

/-- The sum and the difference of two durations are durations. -/
theorem isDuration_of_durations (h : x.add y = some q ∨ x.sub y = some q)
    (hx : x.isDuration = true) (hy : y.isDuration = true) : q.isDuration = true := by
  cases x with
  | instant x => cases hx
  | duration x =>
      cases y with
      | instant y => cases hy
      | duration y => rcases h with h | h <;> cases h <;> rfl

end Quantity

/-- What a time value stands for. -/
def GrpcTimeval.quantity (a : GrpcTimeval) : Quantity :=
  if a.isSpan then .duration a.usec.val else .instant a.usec.val

/-! ## Expressions -/

/-- An expression a PHP program builds from time values with `add` and `subtract`. -/
inductive TimeExpr where
  | value (t : GrpcTimeval)
  | add (e f : TimeExpr)
  | subtract (e f : TimeExpr)
deriving DecidableEq, Repr

namespace TimeExpr

/-- What PHP computes. -/
def eval : TimeExpr → GrpcTimeval
  | .value t => t
  | .add e f => e.eval.add f.eval
  | .subtract e f => e.eval.subtract f.eval

/-- What the expression means, with spans as durations and absolute times as instants. -/
def meaning : TimeExpr → Option Quantity
  | .value t => some t.quantity
  | .add e f => e.meaning.bind fun x ↦ f.meaning.bind fun y ↦ x.add y
  | .subtract e f => e.meaning.bind fun x ↦ f.meaning.bind fun y ↦ x.sub y

/-- Whether every time value in the expression is a span. -/
def spansOnly : TimeExpr → Bool
  | .value t => t.isSpan
  | .add e f | .subtract e f => e.spansOnly && f.spansOnly

/-- The exact number of microseconds. -/
def usec : TimeExpr → Int
  | .value t => t.usec.val
  | .add e f => e.usec + f.usec
  | .subtract e f => e.usec - f.usec

/-- Every value in the expression, and every result on the way, is finite. -/
def Finite : TimeExpr → Prop
  | .value t => t.isInfinite = false
  | .add e f => e.Finite ∧ f.Finite ∧ -2 ^ 63 < e.usec + f.usec ∧ e.usec + f.usec < 2 ^ 63 - 1
  | .subtract e f =>
      e.Finite ∧ f.Finite ∧ -2 ^ 63 < e.usec - f.usec ∧ e.usec - f.usec < 2 ^ 63 - 1

instance Finite.decidable : ∀ e : TimeExpr, Decidable e.Finite
  | .value t => inferInstanceAs (Decidable (t.isInfinite = false))
  | .add e f => @instDecidableAnd _ _ (Finite.decidable e) (@instDecidableAnd _ _
      (Finite.decidable f) (inferInstanceAs (Decidable (_ < _ ∧ _ < _))))
  | .subtract e f => @instDecidableAnd _ _ (Finite.decidable e) (@instDecidableAnd _ _
      (Finite.decidable f) (inferInstanceAs (Decidable (_ < _ ∧ _ < _))))

/-- What the code computes for an expression: the exact number, with the tag of a span only
if there is nothing but spans in it. -/
structure Computed (e : TimeExpr) : Prop where
  usec : e.eval.usec.val = e.usec
  finite : e.eval.isInfinite = false
  isSpan : e.eval.isSpan = e.spansOnly

/-- One operation, on operands that were computed. -/
theorem computed_of_combine {e f g : TimeExpr} {op : I64 → I64 → I64} (he : e.Computed)
    (hf : f.Computed) (heval : g.eval = e.eval.combine op f.eval)
    (hspan : g.spansOnly = (e.spansOnly && f.spansOnly))
    (hop : (op e.eval.usec f.eval.usec).val = g.usec) (hlo : -2 ^ 63 < g.usec)
    (hhi : g.usec < 2 ^ 63 - 1) : g.Computed := by
  rw [GrpcTimeval.combine_of_finite he.finite] at heval
  refine ⟨by rw [heval, hop], ?_, by rw [heval, hspan, he.isSpan, hf.isSpan]⟩
  rw [GrpcTimeval.finite_iff, heval, hop]
  omega

/-- **The number is exact and the tag is the conjunction of the tags.** -/
theorem computed {e : TimeExpr} (h : e.Finite) : e.Computed := by
  induction e with
  | value t => exact ⟨rfl, h, rfl⟩
  | add e f ihe ihf =>
      obtain ⟨he, hf, hlo, hhi⟩ := h
      refine computed_of_combine (ihe he) (ihf hf) rfl rfl ?_ hlo hhi
      rw [Sat.val_saturatingAdd, (ihe he).usec, (ihf hf).usec, min_eq_right hhi.le,
        max_eq_right hlo.le, usec]
  | subtract e f ihe ihf =>
      obtain ⟨he, hf, hlo, hhi⟩ := h
      refine computed_of_combine (ihe he) (ihf hf) rfl rfl ?_ hlo hhi
      rw [Sat.val_saturatingSub, (ihe he).usec, (ihf hf).usec, min_eq_right hhi.le,
        max_eq_right hlo.le, usec]

/-- The meaning of an expression has its exact number, and is a duration if there is
nothing but spans in it. -/
theorem meaning_spec {e : TimeExpr} {q : Quantity} (h : e.meaning = some q) :
    q.usec = e.usec ∧ (e.spansOnly = true → q.isDuration = true) := by
  induction e generalizing q with
  | value t =>
      cases h
      unfold GrpcTimeval.quantity
      split
      · exact ⟨rfl, fun _ ↦ rfl⟩
      · exact ⟨rfl, fun h ↦ absurd h ‹_›⟩
  | add e f ihe ihf =>
      obtain ⟨x, hx, h⟩ := Option.bind_eq_some_iff.mp h
      obtain ⟨y, hy, h⟩ := Option.bind_eq_some_iff.mp h
      refine ⟨by rw [Quantity.usec_add h, (ihe hx).1, (ihf hy).1, usec], fun hs ↦ ?_⟩
      obtain ⟨hse, hsf⟩ := Bool.and_eq_true_iff.mp hs
      exact Quantity.isDuration_of_durations (.inl h) ((ihe hx).2 hse) ((ihf hy).2 hsf)
  | subtract e f ihe ihf =>
      obtain ⟨x, hx, h⟩ := Option.bind_eq_some_iff.mp h
      obtain ⟨y, hy, h⟩ := Option.bind_eq_some_iff.mp h
      refine ⟨by rw [Quantity.usec_sub h, (ihe hx).1, (ihf hy).1, usec], fun hs ↦ ?_⟩
      obtain ⟨hse, hsf⟩ := Bool.and_eq_true_iff.mp hs
      exact Quantity.isDuration_of_durations (.inr h) ((ihe hx).2 hse) ((ihf hy).2 hsf)

/-- **The deadline of an expression.**  It is the one the expression means, at every clock
reading, exactly if the expression is built from spans alone or means an instant. -/
theorem toAbsoluteUsec_eq_iff {e : TimeExpr} {q : Quantity} (hfin : e.Finite)
    (hq : e.meaning = some q) :
    (∀ now, e.eval.toAbsoluteUsec now = Sat.clamp I64.bounds (q.deadline now.val))
      ↔ e.spansOnly = true ∨ q.isDuration = false := by
  have hc := computed hfin
  obtain ⟨husec, hdur⟩ := meaning_spec hq
  have hbounds := GrpcTimeval.finite_iff.mp hc.finite
  cases hs : e.spansOnly with
  | true =>
      simp only [true_or, iff_true]
      intro now
      rw [GrpcTimeval.toAbsoluteUsec_of_span (hc.isSpan.trans hs) hc.finite, Sat.saturatingAdd,
        hc.usec, ← husec]
      cases q with
      | duration x => rfl
      | instant x => cases hdur hs
  | false =>
      simp only [Bool.false_eq_true, false_or]
      have habs : ∀ now, e.eval.toAbsoluteUsec now = e.eval.usec := fun now ↦
        GrpcTimeval.toAbsoluteUsec_of_absolute (hc.isSpan.trans hs)
      have hval : e.eval.usec.val = q.usec := hc.usec.trans husec.symm
      cases q with
      | instant x =>
          refine iff_of_true (fun now ↦ ?_) rfl
          rw [habs, ← Sat.clamp_val e.eval.usec I64.bounds, hval]
          rfl
      | duration x =>
          -- a microsecond after the epoch the duration ends a microsecond later
          refine iff_of_false (fun h ↦ ?_) (by simp [Quantity.isDuration])
          have h₁ := congrArg Sat.val ((habs I64.one).symm.trans (h I64.one))
          have hlo := e.eval.usec.lo_le
          have hhi := e.eval.usec.le_hi
          rw [hval, Sat.val_clamp] at h₁
          simp only [Quantity.usec, Quantity.deadline, I64.one, I64.ofInt] at h₁ hval
          omega

end TimeExpr

namespace GrpcTimeval

/-- The tag of a result whose left operand is absolute, or whose operands are spans. -/
theorem combine_isSpan {a b : GrpcTimeval} {op : I64 → I64 → I64}
    (h : a.isSpan = false ∨ b.isSpan = true) : (a.combine op b).isSpan = a.isSpan := by
  unfold combine
  split
  · rfl
  · rcases h with h | h <;> simp [h]

/-- The deadline of an absolute time moved by a saturating operation. -/
theorem toAbsoluteUsec_combine {d s : GrpcTimeval} {op : I64 → I64 → I64} (now : I64)
    (hd : d.isSpan = false) (hfin : d.isInfinite = false) :
    (d.combine op s).toAbsoluteUsec now = op d.usec s.usec := by
  rw [combine_of_finite hfin, toAbsoluteUsec_of_absolute (by simp [hd])]

end GrpcTimeval

/-- **Which results have the right kind.**  An absolute time plus or minus a span is the
absolute time it should be, and a span plus or minus a span is a span.  In general the
deadline of an expression is the one it means exactly if it is built from spans alone or
means an instant; what is wrong is every difference of two absolute times that is used as
the duration it means. -/
theorem deadline_eq_meaning_iff {e : TimeExpr} {q : Quantity} (hfin : e.Finite)
    (hq : e.meaning = some q) :
    (∀ d s : GrpcTimeval, d.isSpan = false → d.isInfinite = false → s.isSpan = true →
      (d.subtract s).isSpan = false ∧ (d.add s).isSpan = false ∧ ∀ now : I64,
        (d.subtract s).toAbsoluteUsec now = Sat.clamp I64.bounds (d.usec.val - s.usec.val)
        ∧ (d.add s).toAbsoluteUsec now = Sat.clamp I64.bounds (d.usec.val + s.usec.val))
    ∧ (∀ s t : GrpcTimeval, s.isSpan = true → t.isSpan = true →
      (s.add t).isSpan = true ∧ (s.subtract t).isSpan = true)
    ∧ ((∀ now : I64, e.eval.toAbsoluteUsec now = Sat.clamp I64.bounds (q.deadline now.val))
      ↔ e.spansOnly = true ∨ q.isDuration = false) := by
  refine ⟨?_, ?_, TimeExpr.toAbsoluteUsec_eq_iff hfin hq⟩
  · intro d s hd hfin _
    refine ⟨(GrpcTimeval.combine_isSpan (.inl hd)).trans hd,
      (GrpcTimeval.combine_isSpan (.inl hd)).trans hd, fun now ↦ ⟨?_, ?_⟩⟩
    · exact GrpcTimeval.toAbsoluteUsec_combine now hd hfin
    · exact GrpcTimeval.toAbsoluteUsec_combine now hd hfin
  · intro s t hs ht
    exact ⟨(GrpcTimeval.combine_isSpan (.inr ht)).trans hs,
      (GrpcTimeval.combine_isSpan (.inr ht)).trans hs⟩

/-- An instant plus five microseconds, used as a deadline at another clock reading. -/
theorem instant_plus_span_deadline :
    (TimeExpr.add (.value ⟨.ofInt 1000, false⟩) (.value ⟨.ofInt 5, true⟩)).eval.toAbsoluteUsec
      (.ofInt 7) = .ofInt 1005 := by
  have hfin : (TimeExpr.add (.value ⟨.ofInt 1000, false⟩) (.value ⟨.ofInt 5, true⟩)).Finite := by
    decide
  have hmeaning : (TimeExpr.add (.value ⟨.ofInt 1000, false⟩) (.value ⟨.ofInt 5, true⟩)).meaning
      = some (.instant 1005) := by decide
  obtain ⟨-, -, hiff⟩ := deadline_eq_meaning_iff hfin hmeaning
  exact hiff.mpr (.inr rfl) (.ofInt 7)

/-- A deadline five seconds from now, minus now: it should be a span of five seconds, which
resolved now gives the deadline back, and is an instant five seconds after the epoch. -/
theorem absolute_difference_is_absolute :
    ∃ d n : GrpcTimeval, d = ⟨.ofInt 1700000005000000, false⟩ ∧ n = ⟨.ofInt 1700000000000000, false⟩
      ∧ (TimeExpr.subtract (.value d) (.value n)).Finite
      ∧ (TimeExpr.subtract (.value d) (.value n)).meaning = some (.duration 5000000)
      ∧ (d.subtract n).isSpan = false
      ∧ (d.subtract n).toAbsoluteUsec n.usec = .ofInt 5000000
      ∧ (d.subtract n).toAbsoluteUsec n.usec ≠ d.usec :=
  ⟨_, _, rfl, rfl, by decide, by decide, by decide, by decide, by decide⟩

end GrpcPhp
