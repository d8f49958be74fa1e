import GrpcPhp.Lib.Run
import Mathlib.Data.List.Count
import Mathlib.Order.Basic

/-!
# Counting the steps of a run

A potential is a number that every counted step lowers by one and that only paying steps
raise, each by at most a fixed amount.  However the steps are interleaved, a run then makes
no more counted steps than the potential at its start and the paying steps allow.

What a run puts out, as opposed to where it leads, is a history beside the state: `Emitting`
adds one to any system.
-/

universe u v w

namespace GrpcPhp.Lib

variable {σ : Type u} {ι : Type v} {R : σ → ι → σ → Prop} {s t : σ} {ls : List ι}

/-! ## Potentials -/

namespace Run

/-- **The potential rule.**  If, where `I` holds, each step counted by `p` lowers the potential
and only a step that `q` lets pay raises it, by at most `c`, then the counted steps of a run
are paid for. -/
theorem potential {I : σ → Prop} {f : σ → Nat} {p q : ι → Bool} {c : Nat} (h : Run R s ls t)
    (h₀ : I s) (hI : ∀ t l u, I t → R t l u → I u)
    (hf : ∀ t l u, I t → R t l u → f u + (p l).toNat ≤ f t + c * (q l).toNat) :
    f t + ls.countP p ≤ f s + c * ls.countP q := by
  induction h with
  | nil => exact Nat.le_refl _
  | @snoc ls t u l h hs ih =>
      have hstep := hf t l u (h.state_invariant h₀ hI) hs
      have hcount (p : ι → Bool) : (ls ++ [l]).countP p = ls.countP p + (p l).toNat := by
        rw [List.countP_append, List.countP_singleton]
        cases p l <;> rfl
      rw [hcount, hcount, Nat.mul_add]
      omega

/-- A run all of whose steps lower the potential is no longer than the potential. -/
theorem length_le_potential {I : σ → Prop} {f : σ → Nat} (h : Run R s ls t) (h₀ : I s)
    (hI : ∀ t l u, I t → R t l u → I u) (hf : ∀ t l u, I t → R t l u → f u < f t) :
    f t + ls.length ≤ f s := by
  have := h.potential (p := fun _ ↦ true) (q := fun _ ↦ false) (c := 0) h₀ hI hf
  rwa [List.countP_true, Nat.zero_mul] at this

end Run

/-! ## Histories -/

/-- The system `R` with a history beside it, to which each step adds what it puts out. -/
def Emitting {α : Type w} (R : σ → ι → σ → Prop) (out : σ → ι → List α) (p : σ × List α) (l : ι)
    (q : σ × List α) : Prop :=
  R p.1 l q.1 ∧ q.2 = p.2 ++ out p.1 l

namespace Run

/-- Every run has a history. -/
theorem exists_emitting {α : Type w} {out : σ → ι → List α} (h : Run R s ls t) (xs : List α) :
    ∃ ys, Run (Emitting R out) (s, xs) ls (t, ys) := by
  induction h with
  | nil => exact ⟨xs, .nil⟩
  | @snoc ls t u l _ hs ih =>
      obtain ⟨ys, hrun⟩ := ih
      exact ⟨ys ++ out t l, hrun.snoc ⟨hs, rfl⟩⟩

end Run

end GrpcPhp.Lib
