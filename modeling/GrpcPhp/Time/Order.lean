import GrpcPhp.Call.Deadline
import GrpcPhp.Time.Timeval

/-!
# Does an earlier deadline grant less time?

Resolving a time value keeps the order of values of one kind (`toAbsoluteUsec_mono`), and
among real deadlines the earlier one expires first and ends first.  But the deadlines of a
call are not ordered like the numbers they are stored as.  What is not after the epoch is
taken for "no deadline", and so gets the thirty years that stand for the infinite future;
and a finite deadline further away than that ends after the infinite one.

`Ordered` says when two deadlines are clear of both.
-/

namespace GrpcPhp

open Lib

/-- A deadline that limits the call: after the epoch and not infinite. -/
def RealDeadline (deadlineUsec : I64) : Prop :=
  0 < deadlineUsec.val ∧ deadlineUsec.val < I64.max.val

instance : DecidablePred RealDeadline := fun d ↦
  inferInstanceAs (Decidable (0 < d.val ∧ d.val < I64.max.val))

/-- The thirty years of a call without a real deadline, in microseconds. -/
def thirtyYears : Int := 86400 * 365 * 30 * 1000000

/-- What is not real is not after the epoch, or infinite. -/
theorem not_realDeadline_iff {d : I64} : ¬ RealDeadline d ↔ d.val ≤ 0 ∨ d = I64.max := by
  have := d.le_hi
  rw [RealDeadline, Sat.ext_iff, I64.val_max]
  omega

/-- The timer of a call with a real deadline. -/
theorem deadlineInstant_of_real {d now : I64} (h : RealDeadline d) :
    deadlineInstant d now = now.val + max (d.saturatingSub now).val 0 :=
  if_neg (mt not_realDeadline_iff.mpr (not_not.mpr h))

/-- The timer of a call without one. -/
theorem deadlineInstant_of_not_real {d now : I64} (h : ¬ RealDeadline d) :
    deadlineInstant d now = now.val + thirtyYears := if_pos (not_realDeadline_iff.mp h)

/-- Only a real deadline expires. -/
theorem deadlineAlreadyExpired_iff {d now : I64} :
    deadlineAlreadyExpired d now = true ↔ RealDeadline d ∧ d.val ≤ now.val := by
  simp [deadlineAlreadyExpired, RealDeadline]

namespace GrpcTimeval

/-- **Resolution is monotone** on the values of one kind. -/
theorem toAbsoluteUsec_mono {a b : GrpcTimeval} (hkind : a.isSpan = b.isSpan)
    (h : a.usec.val ≤ b.usec.val) (now : I64) :
    (a.toAbsoluteUsec now).val ≤ (b.toAbsoluteUsec now).val := by
  cases hb : b.isSpan with
  | false => rwa [toAbsoluteUsec_of_absolute (hkind.trans hb), toAbsoluteUsec_of_absolute hb]
  | true =>
      cases ha : a.isInfinite with
      | true =>
          rw [toAbsoluteUsec_of_infinite ha]
          rcases isInfinite_iff.mp ha with hmax | hmin
          · -- nothing is after the infinite future
            have hmax' : b.usec.val = 2 ^ 63 - 1 := le_antisymm b.usec.le_hi (hmax.ge.trans h)
            rwa [toAbsoluteUsec_of_infinite (isInfinite_iff.mpr (.inl hmax'))]
          · rw [hmin]
            exact (b.toAbsoluteUsec now).lo_le
      | false =>
          cases hb' : b.isInfinite with
          | true =>
              rw [toAbsoluteUsec_of_infinite hb']
              rcases isInfinite_iff.mp hb' with hmax | hmin
              · rw [hmax]
                exact (a.toAbsoluteUsec now).le_hi
              · exact absurd (le_antisymm (h.trans hmin.le) a.usec.lo_le) (finite_iff.mp ha).2
          | false =>
              rw [toAbsoluteUsec_of_span (hkind.trans hb) ha, toAbsoluteUsec_of_span hb hb']
              exact max_le_max_left _ (min_le_min_left _ (by omega))

end GrpcTimeval

/-- Two deadlines are clear of the sentinels: if the earlier one is not after the epoch,
the later one is no real deadline or thirty years away; and a real deadline that is
compared with the infinite one is at most thirty years away. -/
def Ordered (now d d' : I64) : Prop :=
  (d.val ≤ 0 → RealDeadline d' → thirtyYears ≤ d'.val - now.val)
    ∧ (RealDeadline d → d' = I64.max → d.val - now.val ≤ thirtyYears)

/-- The call with the one deadline has no more time than the call with the other: it is
expired if that one is, and its timer does not fire later. -/
def NoMoreTime (now d d' : I64) : Prop :=
  (deadlineAlreadyExpired d' now = true → deadlineAlreadyExpired d now = true)
    ∧ deadlineInstant d now ≤ deadlineInstant d' now

/-- Among real deadlines the earlier one grants no more time. -/
theorem noMoreTime_of_real {now d d' : I64} (hd : RealDeadline d) (hd' : RealDeadline d')
    (h : d.val ≤ d'.val) : NoMoreTime now d d' := by
  refine ⟨fun hx ↦ ?_, ?_⟩
  · exact deadlineAlreadyExpired_iff.mpr ⟨hd, h.trans (deadlineAlreadyExpired_iff.mp hx).2⟩
  · rw [deadlineInstant_of_real hd, deadlineInstant_of_real hd']
    simp only [Sat.val_saturatingSub]
    have : min (2 ^ 63 - 1) (d.val - now.val) ≤ min (2 ^ 63 - 1) (d'.val - now.val) :=
      min_le_min_left _ (by omega)
    omega

/-- Two deadlines that are not real grant the same time. -/
theorem noMoreTime_of_not_real {now d d' : I64} (hd : ¬ RealDeadline d) (hd' : ¬ RealDeadline d') :
    NoMoreTime now d d' := by
  refine ⟨fun hx ↦ absurd (deadlineAlreadyExpired_iff.mp hx).1 hd', ?_⟩
  rw [deadlineInstant_of_not_real hd, deadlineInstant_of_not_real hd']

/-- No deadline grants no more time than a real one that is thirty years away. -/
theorem noMoreTime_of_not_real_of_real {now d d' : I64} (hd : ¬ RealDeadline d)
    (hd' : RealDeadline d') : NoMoreTime now d d' ↔ thirtyYears ≤ d'.val - now.val := by
  rw [NoMoreTime, deadlineAlreadyExpired_iff, deadlineAlreadyExpired_iff,
    deadlineInstant_of_not_real hd, deadlineInstant_of_real hd', Sat.val_saturatingSub]
  simp only [hd, hd', true_and, false_and, imp_false, thirtyYears]
  omega

/-- A real deadline grants no more time than none if it is at most thirty years away. -/
theorem noMoreTime_of_real_of_not_real {now d d' : I64} (hd : RealDeadline d)
    (hd' : ¬ RealDeadline d') : NoMoreTime now d d' ↔ d.val - now.val ≤ thirtyYears := by
  rw [NoMoreTime, deadlineAlreadyExpired_iff, deadlineInstant_of_real hd,
    deadlineInstant_of_not_real hd', Sat.val_saturatingSub]
  simp only [hd', false_and, false_implies, true_and, thirtyYears]
  omega

/-- **When an earlier deadline grants no more time.**  For two time values of one kind in
this order, resolved at one clock reading and looked at at another, exactly if the deadlines
are `Ordered`. -/
theorem earlier_noMoreTime_iff {a b : GrpcTimeval} (hkind : a.isSpan = b.isSpan)
    (hcmp : GrpcTimeval.compare a b ≤ 0) (nowConstruct now : I64) :
    NoMoreTime now (a.toAbsoluteUsec nowConstruct) (b.toAbsoluteUsec nowConstruct)
      ↔ Ordered now (a.toAbsoluteUsec nowConstruct) (b.toAbsoluteUsec nowConstruct) := by
  have hle := GrpcTimeval.toAbsoluteUsec_mono hkind (GrpcTimeval.compare_le_zero_iff.mp hcmp)
    nowConstruct
  generalize a.toAbsoluteUsec nowConstruct = d at hle ⊢
  generalize b.toAbsoluteUsec nowConstruct = d' at hle ⊢
  by_cases hd : RealDeadline d <;> by_cases hd' : RealDeadline d'
  · have hne : d' ≠ I64.max := fun h ↦ not_realDeadline_iff.mpr (.inr h) hd'
    refine iff_of_true (noMoreTime_of_real hd hd' hle) ⟨fun h ↦ ?_, fun _ h ↦ absurd h hne⟩
    exact absurd hd.1 (not_lt.mpr h)
  · have hmax : d' = I64.max :=
      (not_realDeadline_iff.mp hd').resolve_left (not_le.mpr (hd.1.trans_le hle))
    rw [noMoreTime_of_real_of_not_real hd hd']
    exact ⟨fun h ↦ ⟨fun hneg ↦ absurd hd.1 (not_lt.mpr hneg), fun _ _ ↦ h⟩, fun h ↦ h.2 hd hmax⟩
  · have hneg : d.val ≤ 0 := by
      refine (not_realDeadline_iff.mp hd).resolve_right fun h ↦ ?_
      exact absurd (h ▸ hle) (not_le.mpr hd'.2)
    rw [noMoreTime_of_not_real_of_real hd hd']
    exact ⟨fun h ↦ ⟨fun _ _ ↦ h, fun h' ↦ absurd h' hd⟩, fun h ↦ h.1 hneg hd'⟩
  · exact iff_of_true (noMoreTime_of_not_real hd hd')
      ⟨fun _ h ↦ absurd h hd', fun h ↦ absurd h hd⟩

/-- One and two seconds from now: the shorter span grants no more time. -/
theorem shorter_span_noMoreTime :
    ∃ a b : GrpcTimeval, a = ⟨.ofInt 1000000, true⟩ ∧ b = ⟨.ofInt 2000000, true⟩
      ∧ NoMoreTime (.ofInt 7) (a.toAbsoluteUsec (.ofInt 5)) (b.toAbsoluteUsec (.ofInt 5)) :=
  ⟨_, _, rfl, rfl, (earlier_noMoreTime_iff (by decide) (by decide) (.ofInt 5) (.ofInt 7)).mpr
    ⟨by decide, by decide⟩⟩

/-- The infinite past is before any time, but a call with that deadline is not expired when
a call whose deadline was a moment ago is, and gets thirty years. -/
theorem infPast_grants_more_time :
    ∃ b : GrpcTimeval, b = ⟨.ofInt 1700000000000000, false⟩
      ∧ GrpcTimeval.infPast.isSpan = b.isSpan ∧ GrpcTimeval.compare .infPast b ≤ 0
      ∧ deadlineAlreadyExpired (b.toAbsoluteUsec b.usec) (.ofInt 1700000000000001) = true
      ∧ deadlineAlreadyExpired (GrpcTimeval.infPast.toAbsoluteUsec b.usec)
          (.ofInt 1700000000000001) = false
      ∧ deadlineInstant (b.toAbsoluteUsec b.usec) (.ofInt 1700000000000001)
          = 1700000000000001
      ∧ deadlineInstant (GrpcTimeval.infPast.toAbsoluteUsec b.usec) (.ofInt 1700000000000001)
          = 1700000000000001 + thirtyYears :=
  ⟨_, rfl, by decide, by decide, by decide, by decide, by decide, by decide⟩

end GrpcPhp
