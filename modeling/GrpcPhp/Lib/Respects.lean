import GrpcPhp.Lib.Fallible

/-!
# Methods that do not look

Let `S` relate states that differ only in what a method should not depend on.  The method
*respects* `S` if from related states it returns, or raises, the same, and leaves related
states behind.  The rules follow the structure of the code, so that a method respects `S` if
it reads and writes in a way that does.
-/

universe u

namespace GrpcPhp.Lib.Fallible

variable {ε σ α β : Type u} {S : σ → σ → Prop} {m m' : Fallible ε σ α} {s s' : σ}

/-- From states related by `S` the method has the same outcome, and leaves states related by
`S`. -/
def Respects (S : σ → σ → Prop) (m : Fallible ε σ α) : Prop :=
  ∀ s s', S s s' → (m s).1 = (m s').1 ∧ S (m s).2 (m s').2

theorem respects_pure (a : α) : (pure a : Fallible ε σ α).Respects S := fun _ _ h ↦ ⟨rfl, h⟩

theorem respects_throw (e : ε) : (throw e : Fallible ε σ α).Respects S := fun _ _ h ↦ ⟨rfl, h⟩

theorem respects_lift (x : Except ε α) : (lift x : Fallible ε σ α).Respects S :=
  fun _ _ h ↦ ⟨rfl, h⟩

/-- Reading what related states agree on. -/
theorem respects_gets {f : σ → α} (hf : ∀ s s', S s s' → f s = f s') :
    (gets f : Fallible ε σ α).Respects S :=
  fun s s' h ↦ ⟨congrArg Except.ok (hf s s' h), h⟩

/-- An update that keeps states related. -/
theorem respects_modify {f : σ → σ} (hf : ∀ s s', S s s' → S (f s) (f s')) :
    (modify f : Fallible ε σ PUnit).Respects S :=
  fun s s' h ↦ ⟨rfl, hf s s' h⟩

/-- A sequence of methods. -/
theorem Respects.bind {f : α → Fallible ε σ β} (hm : m.Respects S) (hf : ∀ a, (f a).Respects S) :
    (m >>= f).Respects S := by
  intro s s' h
  obtain ⟨hres, hstate⟩ := hm s s' h
  rw [bind_apply, bind_apply]
  match hs : m s, hs' : m s' with
  | (.ok a, t), (.ok a', t') =>
      rw [hs, hs'] at hres hstate
      cases hres
      exact hf a t t' hstate
  | (.error e, t), (.error e', t') =>
      rw [hs, hs'] at hres hstate
      cases hres
      exact ⟨rfl, hstate⟩
  | (.ok a, t), (.error e, t') => rw [hs, hs'] at hres; cases hres
  | (.error e, t), (.ok a, t') => rw [hs, hs'] at hres; cases hres

/-- A choice between methods. -/
theorem Respects.ite {c : Prop} [Decidable c] (hm : m.Respects S) (hm' : m'.Respects S) :
    (if c then m else m').Respects S := by
  split
  · exact hm
  · exact hm'

end GrpcPhp.Lib.Fallible
