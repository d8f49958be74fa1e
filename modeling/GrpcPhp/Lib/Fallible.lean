import Mathlib.Data.List.Basic

/-!
# State that survives failure

A method on a mutable receiver may fail half way, and what it has already written
stays written.  `Fallible ε σ` is the monad of such methods: it threads the state
`σ` through *both* outcomes, so that a proof sees the partial mutations an error
leaves behind.

The definitions are transparent on purpose: a method applied to a state computes,
and the `_apply` lemmas are the simp set that runs it.  `bind_inv` is the
converse, used to take a run of a composite method apart.  `Raises` bounds the errors
of a method without running it; its rules follow the structure of the code.
-/

universe u

namespace GrpcPhp.Lib

/-- A computation that updates a state and then returns or fails; the state is
kept either way. -/
def Fallible (ε σ α : Type u) : Type u := σ → Except ε α × σ

namespace Fallible

variable {ε σ α β : Type u}

instance instMonad : Monad (Fallible ε σ) where
  pure a := fun s ↦ (.ok a, s)
  bind m f := fun s ↦ match m s with
    | (.ok a, t) => f a t
    | (.error e, t) => (.error e, t)

/-- Read a part of the state. -/
def gets (f : σ → α) : Fallible ε σ α := fun s ↦ (.ok (f s), s)

/-- Update the state. -/
def modify (f : σ → σ) : Fallible ε σ PUnit := fun s ↦ (.ok ⟨⟩, f s)

/-- Fail, leaving the state as it is. -/
def throw (e : ε) : Fallible ε σ α := fun s ↦ (.error e, s)

/-- A pure computation that may fail. -/
def lift (x : Except ε α) : Fallible ε σ α := fun s ↦ (x, s)

@[simp] theorem pure_apply (a : α) (s : σ) : (pure a : Fallible ε σ α) s = (.ok a, s) := rfl

@[simp] theorem gets_apply (f : σ → α) (s : σ) :
    (gets f : Fallible ε σ α) s = (.ok (f s), s) := rfl

@[simp] theorem modify_apply (f : σ → σ) (s : σ) :
    (modify f : Fallible ε σ PUnit) s = (.ok ⟨⟩, f s) := rfl

@[simp] theorem throw_apply (e : ε) (s : σ) : (throw e : Fallible ε σ α) s = (.error e, s) := rfl

@[simp] theorem lift_apply (x : Except ε α) (s : σ) : (lift x : Fallible ε σ α) s = (x, s) := rfl

theorem bind_apply (m : Fallible ε σ α) (f : α → Fallible ε σ β) (s : σ) :
    (m >>= f) s = match m s with
      | (.ok a, t) => f a t
      | (.error e, t) => (.error e, t) := rfl

/-- A first stage that returned hands its state to the second. -/
theorem bind_ok {m : Fallible ε σ α} {f : α → Fallible ε σ β} {s t : σ} {a : α}
    (h : m s = (.ok a, t)) : (m >>= f) s = f a t := by
  rw [bind_apply, h]

/-- A first stage that failed is the whole computation. -/
theorem bind_error {m : Fallible ε σ α} {f : α → Fallible ε σ β} {s t : σ} {e : ε}
    (h : m s = (.error e, t)) : (m >>= f) s = (.error e, t) := by
  rw [bind_apply, h]

/-- **Inversion of a bind.**  Either the first stage returned and the second ran
from the state it left, or the first stage failed and its state is final. -/
theorem bind_inv {m : Fallible ε σ α} {f : α → Fallible ε σ β} {s t : σ} {r : Except ε β}
    (h : (m >>= f) s = (r, t)) :
    (∃ a u, m s = (.ok a, u) ∧ f a u = (r, t)) ∨ (∃ e, m s = (.error e, t) ∧ r = .error e) := by
  rw [bind_apply] at h
  match hm : m s with
  | (.ok a, u) =>
      rw [hm] at h
      exact .inl ⟨a, u, rfl, h⟩
  | (.error e, u) =>
      rw [hm] at h
      cases h
      exact .inr ⟨e, rfl, rfl⟩

/-- Second stages that agree wherever the first can lead are interchangeable. -/
theorem bind_congr {m : Fallible ε σ α} {f g : α → Fallible ε σ β} {s : σ}
    (h : ∀ a t, m s = (.ok a, t) → f a t = g a t) : (m >>= f) s = (m >>= g) s := by
  rw [bind_apply, bind_apply]
  match hm : m s with
  | (.ok a, t) => exact h a t hm
  | (.error e, t) => rfl

/-- A run that can be seen to return. -/
theorem exists_ok {p : Except ε α × σ} (h : p.1.toOption.isSome = true) :
    ∃ a, p = (.ok a, p.2) := by
  obtain ⟨_ | a, s⟩ := p
  · cases h
  · exact ⟨a, rfl⟩

/-! ## What a method can raise -/

/-- The method raises only errors that satisfy `P`, from whatever state. -/
def Raises (P : ε → Prop) (m : Fallible ε σ α) : Prop := ∀ s e t, m s = (.error e, t) → P e

variable {P : ε → Prop} {m : Fallible ε σ α}

theorem raises_pure (a : α) : (pure a : Fallible ε σ α).Raises P := fun s e t h ↦ by cases h

theorem raises_gets (f : σ → α) : (gets f : Fallible ε σ α).Raises P := fun s e t h ↦ by cases h

theorem raises_modify (f : σ → σ) : (modify f : Fallible ε σ PUnit).Raises P :=
  fun s e t h ↦ by cases h

theorem raises_throw {e : ε} (h : P e) : (throw e : Fallible ε σ α).Raises P := by
  intro s e' t heq
  cases heq
  exact h

/-- A sequence raises what its parts raise. -/
theorem Raises.bind {f : α → Fallible ε σ β} (hm : m.Raises P) (hf : ∀ a, (f a).Raises P) :
    (m >>= f).Raises P := by
  intro s e t h
  rcases bind_inv h with ⟨a, u, -, h⟩ | ⟨e', hm', he⟩
  · exact hf a u e t h
  · cases he
    exact hm s e t hm'

/-- So does a choice. -/
theorem Raises.ite {c : Prop} [Decidable c] {m' : Fallible ε σ α} (hm : m.Raises P)
    (hm' : m'.Raises P) : (if c then m else m').Raises P := by
  split
  · exact hm
  · exact hm'

end Fallible

/-! ## Sequences and loops that may fail -/

/-- A sequence returns exactly if both its parts do. -/
theorem bind_eq_ok_iff {ε α β : Type u} {x : Except ε α} {f : α → Except ε β} {b : β} :
    (x >>= f) = .ok b ↔ ∃ a, x = .ok a ∧ f a = .ok b := by
  constructor
  · intro h
    cases x with
    | error e => cases h
    | ok a => exact ⟨a, rfl, h⟩
  · rintro ⟨a, rfl, h⟩
    exact h

/-- A loop returns exactly if it does before the last element, and its last iteration does. -/
theorem foldlM_concat_eq_ok_iff {ε α β : Type u} {f : β → α → Except ε β} {l : List α} {a : α}
    {b c : β} : (l ++ [a]).foldlM f b = .ok c ↔ ∃ b', l.foldlM f b = .ok b' ∧ f b' a = .ok c := by
  rw [List.foldlM_append, bind_eq_ok_iff]
  simp only [List.foldlM_cons, List.foldlM_nil, bind_pure]

/-- The value of a computation that returned. -/
theorem toOption_eq_some_iff {ε α : Type*} {x : Except ε α} {a : α} :
    x.toOption = some a ↔ x = .ok a := by
  cases x <;> simp [Except.toOption]

/-- A result that is passed on through a function. -/
theorem map_eq_ok_iff {ε α β : Type*} {x : Except ε α} {f : α → β} {b : β} :
    x.map f = .ok b ↔ ∃ a, x = .ok a ∧ f a = b := by
  cases x with
  | error e => simp [Except.map]
  | ok a => simp [Except.map]

/-- A sequence that failed did so in one of its parts. -/
theorem cases_of_bind_eq_error {ε α β : Type u} {x : Except ε α} {f : α → Except ε β} {e : ε}
    (h : (x >>= f) = .error e) : x = .error e ∨ ∃ a, x = .ok a ∧ f a = .error e := by
  cases x with
  | error e' =>
      cases h
      exact .inl rfl
  | ok a => exact .inr ⟨a, rfl, h⟩

/-- A loop fails at the first element whose iteration does. -/
theorem foldlM_eq_error_iff {ε α β : Type*} {f : β → α → Except ε β} {l : List α} {b : β} {e : ε} :
    l.foldlM f b = .error e ↔
      ∃ pre a post b', l = pre ++ a :: post ∧ pre.foldlM f b = .ok b' ∧ f b' a = .error e := by
  constructor
  · induction l generalizing b with
    | nil =>
        intro h
        cases h
    | cons x xs ih =>
        intro h
        rw [List.foldlM_cons] at h
        cases hx : f b x with
        | error e' =>
            rw [hx] at h
            cases h
            exact ⟨[], x, xs, b, rfl, rfl, hx⟩
        | ok b₁ =>
            rw [hx] at h
            obtain ⟨pre, a, post, b', rfl, hpre, ha⟩ := ih h
            refine ⟨x :: pre, a, post, b', rfl, ?_, ha⟩
            rw [List.foldlM_cons, hx]
            exact hpre
  · rintro ⟨pre, a, post, b', rfl, hpre, ha⟩
    rw [List.foldlM_append, hpre]
    show (a :: post).foldlM f b' = _
    rw [List.foldlM_cons, ha]
    rfl

end GrpcPhp.Lib
