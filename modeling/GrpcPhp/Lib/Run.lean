import Mathlib.Data.List.Basic

/-!
# Labelled runs

A system is a relation `R : σ → ι → σ → Prop`, where `R s l t` reads "from `s`
the step labelled `l` leads to `t`".  A run records the labels it went through,
so that a statement about histories ("the messages returned so far …") is a
statement about the label list and needs no history variable in the state.

Runs grow at the *end*: an invariant of the pair (labels so far, state reached)
is then proved one step at a time, by `Run.invariant`.  A side condition on the
steps of a run is a smaller relation, so "every run whose steps all meet `P`" is
a run of `R.such P`; nothing else is needed for it.
-/

universe u v

namespace GrpcPhp.Lib

variable {σ : Type u} {ι : Type v}

/-- `Run R s ls t`: the labels `ls`, in order, lead from `s` to `t`. -/
inductive Run (R : σ → ι → σ → Prop) (s : σ) : List ι → σ → Prop
  | /-- Nothing has happened yet. -/
    nil : Run R s [] s
  | /-- One more step at the end. -/
    snoc {ls : List ι} {t u : σ} {l : ι} : Run R s ls t → R t l u → Run R s (ls ++ [l]) u

/-- The steps of `R` that meet the condition `P`, which sees the state before the
step and its label. -/
def Such (R : σ → ι → σ → Prop) (P : σ → ι → Prop) (s : σ) (l : ι) (t : σ) : Prop :=
  P s l ∧ R s l t

/-- The relation of a total, deterministic step function. -/
def graph (f : σ → ι → σ) (s : σ) (l : ι) (t : σ) : Prop := f s l = t

/-- The relation of a partial step function: `none` means that the label is not
enabled. -/
def pgraph (f : σ → ι → Option σ) (s : σ) (l : ι) (t : σ) : Prop := f s l = some t

/-- The condition `P` holds at each step of the run of a step function that goes through
the given labels. -/
def Along (f : σ → ι → σ) (P : σ → ι → Prop) : σ → List ι → Prop
  | _, [] => True
  | s, l :: ls => P s l ∧ Along f P (f s l) ls

instance Along.decidable (f : σ → ι → σ) (P : σ → ι → Prop) [∀ s l, Decidable (P s l)] :
    ∀ (s : σ) (ls : List ι), Decidable (Along f P s ls)
  | _, [] => .isTrue trivial
  | s, l :: ls => @instDecidableAnd _ _ _ (Along.decidable f P (f s l) ls)

namespace Run

variable {R R' : σ → ι → σ → Prop} {s t u : σ} {ls ls' : List ι} {l : ι}

/-- **The invariant rule.**  A property of (labels so far, state reached) that
holds at the start and survives every step holds of every run. -/
theorem invariant {I : List ι → σ → Prop} (h : Run R s ls t) (h₀ : I [] s)
    (hstep : ∀ ls t l u, I ls t → R t l u → I (ls ++ [l]) u) : I ls t := by
  induction h with
  | nil => exact h₀
  | snoc _ hs ih => exact hstep _ _ _ _ ih hs

/-- The invariant rule where a step may use what is known of the run before it. -/
theorem invariant_of_run {I : List ι → σ → Prop} (h : Run R s ls t) (h₀ : I [] s)
    (hstep : ∀ ls t l u, Run R s ls t → I ls t → R t l u → I (ls ++ [l]) u) : I ls t := by
  induction h with
  | nil => exact h₀
  | snoc h hs ih => exact hstep _ _ _ _ h ih hs

/-- The invariant rule for a property of the state alone. -/
theorem state_invariant {I : σ → Prop} (h : Run R s ls t) (h₀ : I s)
    (hstep : ∀ t l u, I t → R t l u → I u) : I t :=
  h.invariant (I := fun _ t ↦ I t) h₀ fun _ t l u hI hR ↦ hstep t l u hI hR

/-- A condition on the steps can be forgotten. -/
theorem of_such {P : σ → ι → Prop} (h : Run (Such R P) s ls t) : Run R s ls t := by
  induction h with
  | nil => exact .nil
  | snoc _ hs ih => exact ih.snoc hs.2

/-- A condition that the labels of a run meet in any state holds along it. -/
theorem such_of_forall {P : σ → ι → Prop} (h : Run R s ls t) (hP : ∀ l ∈ ls, ∀ s, P s l) :
    Run (Such R P) s ls t := by
  induction h with
  | nil => exact .nil
  | snoc _ hs ih =>
      rw [List.forall_mem_append, List.forall_mem_singleton] at hP
      exact (ih hP.1).snoc ⟨hP.2 _, hs⟩

/-- A single step is a run. -/
theorem single (h : R s l t) : Run R s [l] t := Run.nil.snoc h

/-- Runs compose. -/
theorem append (h : Run R s ls t) (h' : Run R t ls' u) : Run R s (ls ++ ls') u := by
  induction h' with
  | nil => simpa using h
  | snoc _ hs ih =>
      rw [← List.append_assoc]
      exact ih.snoc hs

/-- **The simulation rule.**  If each step of one system is matched by a run of another, so
is each of its runs. -/
theorem simulates {τ : Type*} {κ : Type*} {R' : τ → κ → τ → Prop} {S : σ → τ → Prop} {s' : τ}
    (h : Run R s ls t) (h₀ : S s s')
    (hstep : ∀ t l u t', S t t' → R t l u → ∃ ks u', Run R' t' ks u' ∧ S u u') :
    ∃ ks t', Run R' s' ks t' ∧ S t t' := by
  induction h with
  | nil => exact ⟨[], s', .nil, h₀⟩
  | snoc _ hs ih =>
      obtain ⟨ks, t', hrun, hS⟩ := ih
      obtain ⟨ks', u', hrun', hS'⟩ := hstep _ _ _ _ hS hs
      exact ⟨ks ++ ks', u', hrun.append hrun', hS'⟩

/-- **The mapping rule.**  If a function takes the steps of one system to steps of another with
the same labels, as long as an invariant holds, it takes runs to runs. -/
theorem map {τ : Type*} {R' : τ → ι → τ → Prop} {f : σ → τ} {I : σ → Prop} (h : Run R s ls t)
    (h₀ : I s) (hstep : ∀ t l u, I t → R t l u → I u ∧ R' (f t) l (f u)) :
    I t ∧ Run R' (f s) ls (f t) := by
  induction h with
  | nil => exact ⟨h₀, .nil⟩
  | snoc _ hs ih =>
      obtain ⟨hI, hrun⟩ := ih
      obtain ⟨hI', hs'⟩ := hstep _ _ _ hI hs
      exact ⟨hI', hrun.snoc hs'⟩

/-- The run of a step function through a list of labels. -/
theorem of_along {f : σ → ι → σ} {P : σ → ι → Prop} (h : Along f P s ls) :
    Run (Such (graph f) P) s ls (ls.foldl f s) := by
  induction ls generalizing s with
  | nil => exact .nil
  | cons l ls ih => exact (single ⟨h.1, rfl⟩).append (ih h.2)

/-- The run of a step function through a list of labels, without a condition. -/
theorem of_graph (f : σ → ι → σ) (s : σ) (ls : List ι) :
    Run (graph f) s ls (ls.foldl f s) := by
  induction ls generalizing s with
  | nil => exact .nil
  | cons l ls ih => exact (single rfl).append (ih _)

/-- The run of a partial step function through a list of labels. -/
theorem of_foldlM {f : σ → ι → Option σ} (h : ls.foldlM f s = some t) : Run (pgraph f) s ls t := by
  induction ls generalizing s with
  | nil => cases h; exact .nil
  | cons l ls ih =>
      rw [List.foldlM_cons] at h
      obtain ⟨s', hs, ht⟩ := Option.bind_eq_some_iff.mp h
      exact (single hs).append (ih ht)

/-- A run of a partial step function, found by computation, to a state with a decidable
property. -/
theorem exists_of_any (f : σ → ι → Option σ) (s : σ) (ls : List ι) (p : σ → Bool)
    (h : (ls.foldlM f s).any p = true) : ∃ t, Run (pgraph f) s ls t ∧ p t = true := by
  obtain ⟨t, ht, hp⟩ := (Option.any_eq_true ..).mp h
  exact ⟨t, of_foldlM ht, hp⟩

/-- The run of a partial step function through a list of labels, where each step meets a
decidable condition. -/
theorem of_foldlM_such {f : σ → ι → Option σ} {P : σ → ι → Prop} [∀ s l, Decidable (P s l)]
    (h : ls.foldlM (fun s l ↦ if P s l then f s l else none) s = some t) :
    Run (Such (pgraph f) P) s ls t := by
  have hrun := of_foldlM h
  clear h
  induction hrun with
  | nil => exact .nil
  | snoc _ hs ih =>
      refine ih.snoc ?_
      simp only [pgraph] at hs
      split at hs
      · next hP => exact ⟨hP, hs⟩
      · cases hs

/-- A run of a partial step function whose steps all meet a decidable condition, found by
computation. -/
theorem exists_of_any_such (f : σ → ι → Option σ) (P : σ → ι → Prop) [∀ s l, Decidable (P s l)]
    (s : σ) (ls : List ι) (p : σ → Bool)
    (h : (ls.foldlM (fun s l ↦ if P s l then f s l else none) s).any p = true) :
    ∃ t, Run (Such (pgraph f) P) s ls t ∧ p t = true := by
  obtain ⟨t, ht, hp⟩ := (Option.any_eq_true ..).mp h
  exact ⟨t, of_foldlM_such ht, hp⟩

/-- A step function has one run through a list of labels. -/
theorem eq_foldl {f : σ → ι → σ} (h : Run (graph f) s ls t) : t = ls.foldl f s := by
  induction h with
  | nil => rfl
  | snoc _ hs ih => rw [List.foldl_append, ← ih]; exact hs.symm

end Run

end GrpcPhp.Lib
