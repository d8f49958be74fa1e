import GrpcPhp.Time.Infinity

/-!
# Similar time values

`similar` compares a difference with a threshold, and both saturate: a threshold whose size is the
largest `i64` is passed by every pair of values (`IsUnlimited`), every other one is exact
(`similar_iff`).

Two values that a program computes side by side, with the same operations, stay as similar as
they were while both are finite: saturation only brings them closer.  Once one of them is infinite
the other one moves alone.  `similar_chain_iff` says that this is the only way to lose similarity,
and that it can always happen.
-/

namespace GrpcPhp

open Lib

namespace GrpcTimeval

/-- `similar`. -/
def similar (a b threshold : GrpcTimeval) : Bool :=
  (a.usec.saturatingSub b.usec).saturatingAbs.val ≤ threshold.usec.saturatingAbs.val

/-- A threshold of the largest size there is. -/
def IsUnlimited (t : GrpcTimeval) : Prop := 2 ^ 63 - 1 ≤ |t.usec.val|

instance : DecidablePred IsUnlimited := fun t ↦ inferInstanceAs (Decidable (_ ≤ |t.usec.val|))

variable {a b t : GrpcTimeval} {l : Link}

/-! ## One comparison -/

/-- **What `similar` compares**: the exact difference, unless the threshold is unlimited. -/
theorem similar_iff :
    a.similar b t = true ↔ |a.usec.val - b.usec.val| ≤ |t.usec.val| ∨ t.IsUnlimited := by
  rw [similar, decide_eq_true_iff, Sat.val_saturatingAbs, Sat.val_saturatingAbs,
    Sat.val_saturatingSub, IsUnlimited]
  simp only [abs_eq_max_neg]
  omega

/-- Similarity is symmetric. -/
theorem similar_comm : a.similar b t = b.similar a t := by
  rw [Bool.eq_iff_iff, similar_iff, similar_iff, abs_sub_comm]

/-- Values that are closer are similar too. -/
theorem similar_of_le {a' b' : GrpcTimeval} (h : a.similar b t = true)
    (hle : |a'.usec.val - b'.usec.val| ≤ |a.usec.val - b.usec.val|) :
    a'.similar b' t = true :=
  similar_iff.mpr ((similar_iff.mp h).imp_left hle.trans)

/-! ## The same operations on two values -/

/-- The microseconds of a result depend on nothing but the microseconds. -/
theorem Link.apply_usec_congr (h : a.usec = b.usec) : (l.apply a).usec = (l.apply b).usec := by
  have hinf : a.isInfinite = b.isInfinite := by rw [isInfinite, isInfinite, h]
  cases ha : a.isInfinite with
  | true => rw [apply_of_infinite ha, apply_of_infinite (hinf.symm.trans ha), h]
  | false =>
      have hb := hinf.symm.trans ha
      cases l with
      | add t => rw [apply, apply, GrpcTimeval.add, combine_of_finite ha, combine_of_finite hb, h]
      | subtract t =>
          rw [apply, apply, GrpcTimeval.subtract, combine_of_finite ha, combine_of_finite hb, h]

/-- **One step brings finite values no further apart.** -/
theorem Link.abs_apply_sub_apply_le (ha : a.isInfinite = false) (hb : b.isInfinite = false) :
    |(l.apply a).usec.val - (l.apply b).usec.val| ≤ |a.usec.val - b.usec.val| := by
  cases l with
  | add t =>
      rw [apply, apply, GrpcTimeval.add, combine_of_finite ha, combine_of_finite hb,
        ← add_sub_add_right_eq_sub a.usec.val b.usec.val t.usec.val]
      exact Sat.abs_clamp_sub_clamp_le I64.bounds _ _
  | subtract t =>
      rw [apply, apply, GrpcTimeval.subtract, combine_of_finite ha, combine_of_finite hb,
        ← sub_sub_sub_cancel_right a.usec.val b.usec.val t.usec.val]
      exact Sat.abs_clamp_sub_clamp_le I64.bounds _ _

/-- Neither value is infinite before the last link. -/
def FiniteUntilLast (a b : GrpcTimeval) (links : List Link) : Prop :=
  ∀ pre, pre <+: links → pre ≠ links →
    (a.chain pre).isInfinite = false ∧ (b.chain pre).isInfinite = false

/-- What the condition says of the first link, and of the rest. -/
theorem FiniteUntilLast.cons {links : List Link} (h : a.FiniteUntilLast b (l :: links)) :
    (a.isInfinite = false ∧ b.isInfinite = false)
      ∧ (l.apply a).FiniteUntilLast (l.apply b) links := by
  refine ⟨h [] List.nil_prefix (List.cons_ne_nil _ _).symm, fun pre hpre hne ↦ ?_⟩
  exact h (l :: pre) (List.cons_prefix_cons.mpr ⟨rfl, hpre⟩) fun heq ↦
    hne (List.cons.inj heq).2

/-- **A whole chain** keeps the similarity of values that stay finite. -/
theorem similar_chain_of_finite {links : List Link} (h : a.similar b t = true)
    (hfin : a.FiniteUntilLast b links) : (a.chain links).similar (b.chain links) t = true := by
  induction links generalizing a b with
  | nil => exact h
  | cons l links ih =>
      obtain ⟨⟨ha, hb⟩, hrest⟩ := hfin.cons
      exact ih (similar_of_le h (Link.abs_apply_sub_apply_le ha hb)) hrest

/-- A whole chain on equal numbers. -/
theorem chain_usec_congr {links : List Link} (h : a.usec = b.usec) :
    (a.chain links).usec = (b.chain links).usec := by
  induction links generalizing a b with
  | nil => exact h
  | cons l links ih => exact ih (Link.apply_usec_congr h)

/-! ## Losing similarity -/

/-- A finite value can be moved away from an infinite one. -/
theorem exists_not_similar_of_infinite (ht : ¬ t.IsUnlimited) (ha : a.isInfinite = true)
    (hb : b.isInfinite = false) : ∃ l : Link, (l.apply a).similar (l.apply b) t = false := by
  refine ⟨.subtract b, ?_⟩
  have hzero : ((Link.subtract b).apply b).usec.val = 0 := by
    rw [Link.apply, GrpcTimeval.subtract, combine_of_finite hb, Sat.val_saturatingSub, sub_self]
    rfl
  rw [Link.apply_of_infinite ha, ← Bool.not_eq_true, similar_iff, hzero, sub_zero]
  rintro (hle | hunlimited)
  · apply ht
    have hsize : 2 ^ 63 - 1 ≤ |a.usec.val| := by
      rcases isInfinite_iff.mp ha with h | h <;> rw [h] <;> decide
    exact hsize.trans hle
  · exact ht hunlimited

/-- Adding a span to a finite value gives an infinity if the sum is out of range. -/
theorem add_isInfinite_iff (ha : a.isInfinite = false) (c : I64) :
    ((Link.add ⟨c, true⟩).apply a).isInfinite = true
      ↔ 2 ^ 63 - 1 ≤ a.usec.val + c.val ∨ a.usec.val + c.val ≤ -2 ^ 63 := by
  rw [Link.apply, GrpcTimeval.add, combine_of_finite ha, isInfinite_iff, Sat.val_saturatingAdd,
    Sat.max_min_eq_hi_iff (by decide), Sat.max_min_eq_lo_iff (by decide)]

/-- Of two finite values one can be moved to an infinity alone. -/
theorem exists_infinite_of_lt (ha : a.isInfinite = false) (hb : b.isInfinite = false)
    (hlt : b.usec.val < a.usec.val) :
    ∃ l : Link, (l.apply a).isInfinite ≠ (l.apply b).isInfinite := by
  have hlo := lt_of_le_of_ne b.usec.lo_le (finite_iff.mp hb).2.symm
  have hhi := lt_of_le_of_ne a.usec.le_hi (finite_iff.mp ha).1
  rcases le_or_gt 0 a.usec.val with hpos | hneg
  · -- up, until the larger one is at the infinite future
    have hc : (I64.max.saturatingSub a.usec).val = 2 ^ 63 - 1 - a.usec.val := by
      rw [Sat.val_saturatingSub, I64.val_max]
      omega
    refine ⟨.add ⟨I64.max.saturatingSub a.usec, true⟩, fun heq ↦ ?_⟩
    rw [Bool.eq_iff_iff, add_isInfinite_iff ha, add_isInfinite_iff hb, hc] at heq
    omega
  · -- down, until the smaller one is at the infinite past
    have hc : (I64.min.saturatingSub b.usec).val = -2 ^ 63 - b.usec.val := by
      rw [Sat.val_saturatingSub, I64.val_min]
      omega
    refine ⟨.add ⟨I64.min.saturatingSub b.usec, true⟩, fun heq ↦ ?_⟩
    rw [Bool.eq_iff_iff, add_isInfinite_iff ha, add_isInfinite_iff hb, hc] at heq
    omega

/-- So the two can be moved apart. -/
theorem exists_not_similar_of_mixed (ht : ¬ t.IsUnlimited) (hmixed : a.isInfinite ≠ b.isInfinite) :
    ∃ l : Link, (l.apply a).similar (l.apply b) t = false := by
  cases ha : a.isInfinite with
  | true => exact exists_not_similar_of_infinite ht ha (by simpa [ha] using hmixed.symm)
  | false =>
      have hb : b.isInfinite = true := by simpa [ha] using hmixed.symm
      obtain ⟨l, hl⟩ := exists_not_similar_of_infinite ht hb ha
      exact ⟨l, similar_comm.trans hl⟩

/-- **Similarity can be lost** between any two values, unless they are equal or the threshold is
unlimited. -/
theorem exists_chain_not_similar (ht : ¬ t.IsUnlimited) (hne : a.usec ≠ b.usec) :
    ∃ links, (a.chain links).similar (b.chain links) t = false := by
  have hval : a.usec.val ≠ b.usec.val := fun h ↦ hne (Sat.ext h)
  by_cases hmixed : a.isInfinite = b.isInfinite
  · cases ha : a.isInfinite with
    | true =>
        -- the two infinities are further apart than any threshold
        refine ⟨[], ?_⟩
        change a.similar b t = false
        have hb := isInfinite_iff.mp (hmixed.symm.trans ha)
        rw [isInfinite_iff] at ha
        rw [← Bool.not_eq_true, similar_iff, not_or]
        refine ⟨fun hle ↦ ht (le_trans ?_ hle), ht⟩
        rw [abs_eq_max_neg]
        omega
    | false =>
        have hb := hmixed.symm.trans ha
        obtain ⟨l, hl⟩ : ∃ l : Link, (l.apply a).isInfinite ≠ (l.apply b).isInfinite := by
          rcases lt_or_gt_of_ne hval with hlt | hlt
          · obtain ⟨l, hl⟩ := exists_infinite_of_lt hb ha hlt
            exact ⟨l, hl.symm⟩
          · exact exists_infinite_of_lt ha hb hlt
        obtain ⟨l', hl'⟩ := exists_not_similar_of_mixed ht hl
        exact ⟨[l, l'], hl'⟩
  · obtain ⟨l, hl⟩ := exists_not_similar_of_mixed ht hmixed
    exact ⟨[l], hl⟩

/-- **Side by side.**  For every two values and every threshold: a chain of `add` and `subtract`
applied to both keeps them similar as long as neither is infinite before its last link, and every
chain keeps them similar only if their numbers are equal or the threshold is unlimited. -/
theorem similar_chain_iff (a b t : GrpcTimeval) :
    ((∀ links, a.FiniteUntilLast b links → (a.chain links).similar (b.chain links) t = true)
        ↔ a.similar b t = true)
      ∧ ((∀ links, (a.chain links).similar (b.chain links) t = true)
        ↔ a.usec = b.usec ∨ t.IsUnlimited) := by
  constructor
  · constructor
    · intro h
      exact h [] fun pre hpre hne ↦ absurd (List.prefix_nil.mp hpre) hne
    · intro h links hfin
      exact similar_chain_of_finite h hfin
  · constructor
    · intro h
      by_contra hnot
      rw [not_or] at hnot
      obtain ⟨links, hlinks⟩ := exists_chain_not_similar hnot.2 hnot.1
      cases hlinks.symm.trans (h links)
    · rintro (heq | hunlimited) links
      · rw [similar_iff, chain_usec_congr heq, sub_self, abs_zero]
        exact .inl (abs_nonneg _)
      · exact similar_iff.mpr (.inr hunlimited)

/-- A finite value next to the infinite future moves away from it alone. -/
example : infFuture.similar ⟨.ofInt (2 ^ 63 - 2), false⟩ ⟨I64.one, true⟩ = true
    ∧ (infFuture.chain [.subtract ⟨I64.one, true⟩]).similar
      (chain ⟨.ofInt (2 ^ 63 - 2), false⟩ [.subtract ⟨I64.one, true⟩]) ⟨I64.one, true⟩ = false := by
  decide

end GrpcTimeval

end GrpcPhp
