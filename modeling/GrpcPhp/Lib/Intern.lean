import Mathlib.Data.List.Pairwise

/-!
# Numbered objects and interning

Objects that are never given up can be kept in a list, under their position.  The first
section says how such a list grows and changes.

An interning table hands out numbers.  A request with a key that was asked for before gets
the number it was given then; a request with a new key gets a number of its own, and the
table remembers it; a request without a key always gets a number of its own.

`Serves` relates a table to the requests it has answered.  It survives a request for a key
that is there (`Serves.found`) and one for a number of its own (`Serves.extend`), and it says
which requests share a number: those with the same key, and no others (`Serves.shared_iff`).
-/

namespace GrpcPhp.Lib

/-! ## Numbered objects -/

section

variable {α β : Type*} {l : List α} {a b : α} {i : ℕ}

/-- An object keeps its number. -/
theorem getElem?_append_of_eq_some (h : l[i]? = some a) (l' : List α) : (l ++ l')[i]? = some a := by
  rw [List.getElem?_append_left (List.getElem?_eq_some_iff.mp h).1, h]

/-- An object was there, or it is the new one. -/
theorem getElem?_concat_eq_some (h : (l ++ [a])[i]? = some b) :
    l[i]? = some b ∨ i = l.length ∧ b = a := by
  rcases Nat.lt_or_ge i l.length with hlt | hge
  · rw [List.getElem?_append_left hlt] at h
    exact .inl h
  · rw [List.getElem?_append_right hge] at h
    obtain ⟨hlen, rfl⟩ := List.getElem?_eq_some_iff.mp h
    have hi : i = l.length := by
      rw [List.length_singleton] at hlen
      omega
    exact .inr ⟨hi, by simp⟩

/-- A part of the objects that an update of one object leaves alone. -/
theorem map_set_of_getElem? (f : α → β) (ha : l[i]? = some a) (hf : f b = f a) :
    (l.set i b).map f = l.map f := by
  obtain ⟨hlt, rfl⟩ := List.getElem?_eq_some_iff.mp ha
  rw [List.map_set, hf, ← List.getElem_map f (h := by simpa using hlt), List.set_getElem_self]

/-- The same for an update by a function. -/
theorem map_modify_of_eq (f : α → β) {g : α → α} (hf : ∀ a, f (g a) = f a) (l : List α) (i : ℕ) :
    (l.modify i g).map f = l.map f := by
  refine List.ext_getElem? fun j ↦ ?_
  rw [List.getElem?_map, List.getElem?_modify, List.getElem?_map]
  split
  · simp [Function.comp_def, hf]
  · simp

end

/-! ## Interning -/

/-- The keys that have a number, and the first number that was not handed out. -/
structure InternTable (κ : Type*) where
  entries : List (κ × ℕ) := []
  next : ℕ := 0

namespace InternTable

variable {κ : Type*} [DecidableEq κ]

/-- The number of a key that was asked for before. -/
def find? (t : InternTable κ) (key : Option κ) : Option ℕ := key.bind fun k ↦ t.entries.lookup k

/-- Hand out the next number, and remember it under the key. -/
def extend (t : InternTable κ) (key : Option κ) : InternTable κ where
  entries := (key.toList.map fun k ↦ (k, t.next)) ++ t.entries
  next := t.next + 1

/-- Two requests have the same key. -/
def Shares (r r' : Option κ × ℕ) : Prop := ∃ k, r.1 = some k ∧ r'.1 = some k

/-- The table has answered the requests `served`: each got the number that comes with it. -/
structure Serves (t : InternTable κ) (served : List (Option κ × ℕ)) : Prop where
  /-- Only numbers below `next` were handed out. -/
  lt_next : ∀ r ∈ served, r.2 < t.next
  /-- The table has the number of every key that was asked for, and no others. -/
  lookup_iff : ∀ k n, t.entries.lookup k = some n ↔ (some k, n) ∈ served
  /-- Two requests share a number exactly if they have the same key. -/
  shared_iff : served.Pairwise fun r r' ↦ r.2 = r'.2 ↔ Shares r r'

namespace Serves

variable {t : InternTable κ} {served : List (Option κ × ℕ)} {key : Option κ} {n : ℕ}

/-- A new table. -/
theorem empty : Serves ({} : InternTable κ) [] := ⟨by simp, by simp, .nil⟩

/-- Requests with one number have one key. -/
theorem key_eq (h : Serves t served) {r r' : Option κ × ℕ} (hr : r ∈ served) (hr' : r' ∈ served)
    (hn : r.2 = r'.2) : r.1 = r'.1 := by
  have hpair : served.Pairwise fun r r' ↦ r.2 = r'.2 → r.1 = r'.1 :=
    h.shared_iff.imp fun hiff hn ↦ by
      obtain ⟨k, hk, hk'⟩ := hiff.mp hn
      exact hk.trans hk'.symm
  have : Std.Symm fun r r' : Option κ × ℕ ↦ r.2 = r'.2 → r.1 = r'.1 :=
    ⟨fun _ _ heq hn ↦ (heq hn.symm).symm⟩
  exact hpair.forall_of_forall (fun _ _ _ ↦ rfl) hr hr' hn

/-- A key that was asked for before. -/
theorem found (h : Serves t served) (hf : t.find? key = some n) :
    Serves t (served ++ [(key, n)]) := by
  obtain ⟨k, rfl, hk⟩ := Option.bind_eq_some_iff.mp hf
  have hmem : (some k, n) ∈ served := (h.lookup_iff k n).mp hk
  refine ⟨?_, ?_, ?_⟩
  · intro r hr
    rcases List.mem_append.mp hr with hr | hr
    · exact h.lt_next r hr
    · exact List.mem_singleton.mp hr ▸ h.lt_next _ hmem
  · intro k' n'
    rw [h.lookup_iff, List.mem_append, List.mem_singleton]
    refine ⟨.inl, fun hr ↦ hr.elim id fun heq ↦ heq ▸ hmem⟩
  · refine List.pairwise_append.mpr ⟨h.shared_iff, List.pairwise_singleton _ _, ?_⟩
    intro r hr r' hr'
    obtain rfl := List.mem_singleton.mp hr'
    constructor
    · exact fun hn ↦ ⟨k, h.key_eq hr hmem hn, rfl⟩
    · rintro ⟨k', hk', hk''⟩
      obtain rfl := Option.some.inj hk''
      -- the earlier request with this key got what the table has under it
      have := (h.lookup_iff k r.2).mpr (hk' ▸ hr)
      exact Option.some.inj (this.symm.trans hk)

/-- A key that is not in the table was not asked for. -/
theorem not_mem_of_find?_eq_none (h : Serves t served) (hf : t.find? key = none) {k : κ}
    (hk : key = some k) : (some k, n) ∉ served := by
  subst hk
  intro hr
  cases hf.symm.trans ((h.lookup_iff k n).mpr hr)

/-- A new key, or no key. -/
theorem extend (h : Serves t served) (hf : t.find? key = none) :
    Serves (t.extend key) (served ++ [(key, t.next)]) := by
  refine ⟨?_, ?_, ?_⟩
  · intro r hr
    rcases List.mem_append.mp hr with hr | hr
    · exact Nat.lt_succ_of_lt (h.lt_next r hr)
    · exact List.mem_singleton.mp hr ▸ Nat.lt_succ_self t.next
  · intro k n
    rw [List.mem_append, List.mem_singleton, ← h.lookup_iff]
    cases key with
    | none => simp [InternTable.extend]
    | some k' =>
        by_cases hk : k = k'
        · subst hk
          have hf : t.entries.lookup k = none := hf
          simp [InternTable.extend, hf, eq_comm]
        · simp [InternTable.extend, List.lookup_cons, hk, beq_eq_false_iff_ne.mpr hk]
  · refine List.pairwise_append.mpr ⟨h.shared_iff, List.pairwise_singleton _ _, ?_⟩
    intro r hr r' hr'
    obtain rfl := List.mem_singleton.mp hr'
    constructor
    · exact fun hn ↦ absurd hn (Nat.ne_of_lt (h.lt_next r hr))
    · rintro ⟨k, hk, hk'⟩
      exact absurd (hk ▸ hr : (some k, r.2) ∈ served) (h.not_mem_of_find?_eq_none hf hk')

end Serves

end InternTable

end GrpcPhp.Lib
