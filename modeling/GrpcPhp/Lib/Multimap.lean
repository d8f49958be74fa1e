import Mathlib.Data.List.Induction

/-!
# Ordered multimaps

A header map keeps a sequence of `(key, value)` entries in which a key may occur
several times.  `insert` is the replacing insertion: it leaves one entry for its
key, at the place of the first old one, and appends when the key is new.

A map is observed through `values`, the list of all values of a key in iteration
order.  The one result that matters to a client that builds a map by inserting a
list of raw pairs, some of which do not parse, is `values_insertAll`: starting
from the empty map each key ends up with exactly the value of its *last pair that
parses*, so that a later pair overrides an earlier one and an unparsable later
pair removes nothing.
-/

universe u v w

namespace GrpcPhp.Lib

/-- A sequence of entries; a key may occur more than once. -/
abbrev Multimap (κ : Type u) (ν : Type v) := List (κ × ν)

namespace Multimap

variable {κ : Type u} {ν : Type v} {π : Type w} [DecidableEq κ]

/-- All values of a key, in iteration order. -/
def values (m : Multimap κ ν) (k : κ) : List ν :=
  m.filterMap fun e ↦ if e.1 = k then some e.2 else none

/-- The entries of every other key. -/
def erase (m : Multimap κ ν) (k : κ) : Multimap κ ν := m.filter fun e ↦ e.1 ≠ k

/-- Replacing insertion. -/
def insert : Multimap κ ν → κ → ν → Multimap κ ν
  | [], k, v => [(k, v)]
  | e :: m, k, v => if e.1 = k then (k, v) :: erase m k else e :: insert m k v

@[simp] theorem values_nil (k : κ) : values ([] : Multimap κ ν) k = [] := rfl

@[simp] theorem values_cons_self (m : Multimap κ ν) (k : κ) (v : ν) :
    values ((k, v) :: m) k = v :: values m k := by simp [values]

theorem values_cons_of_ne {m : Multimap κ ν} {e : κ × ν} {k : κ} (h : e.1 ≠ k) :
    values (e :: m) k = values m k := by simp [values, h]

/-- Erasing a key leaves it without values. -/
@[simp] theorem values_erase_self (m : Multimap κ ν) (k : κ) : values (erase m k) k = [] := by
  induction m with
  | nil => rfl
  | cons e m ih =>
      by_cases h : e.1 = k
      · simpa [erase, h] using ih
      · simp only [erase, ne_eq, h, not_false_eq_true, decide_true, List.filter_cons_of_pos]
        rw [values_cons_of_ne h]
        exact ih

/-- Erasing a key touches no other key. -/
theorem values_erase_of_ne {m : Multimap κ ν} {k k' : κ} (h : k' ≠ k) :
    values (erase m k) k' = values m k' := by
  induction m with
  | nil => rfl
  | cons e m ih =>
      by_cases he : e.1 = k
      · rw [values_cons_of_ne (by rw [he]; exact Ne.symm h)]
        simpa [erase, he] using ih
      · simp only [erase, ne_eq, he, not_false_eq_true, decide_true, List.filter_cons_of_pos]
        by_cases hk : e.1 = k'
        · obtain ⟨a, v⟩ := e
          subst hk
          simpa [erase] using ih
        · rw [values_cons_of_ne hk, values_cons_of_ne hk]
          exact ih

/-- After an insertion the key has exactly the inserted value. -/
@[simp] theorem values_insert_self (m : Multimap κ ν) (k : κ) (v : ν) :
    values (insert m k v) k = [v] := by
  induction m with
  | nil => simp [insert]
  | cons e m ih =>
      by_cases h : e.1 = k
      · simp [insert, h]
      · simp only [insert, h, if_false]
        rw [values_cons_of_ne h, ih]

/-- An insertion touches no other key. -/
theorem values_insert_of_ne {m : Multimap κ ν} {k k' : κ} (v : ν) (h : k' ≠ k) :
    values (insert m k v) k' = values m k' := by
  induction m with
  | nil => simp [insert, values, Ne.symm h]
  | cons e m ih =>
      by_cases he : e.1 = k
      · simp only [insert, he, if_true]
        rw [values_cons_of_ne (Ne.symm h), values_cons_of_ne (by rw [he]; exact Ne.symm h),
          values_erase_of_ne h]
      · simp only [insert, he, if_false]
        by_cases hk : e.1 = k'
        · obtain ⟨a, b⟩ := e
          subst hk
          rw [values_cons_self, values_cons_self, ih]
        · rw [values_cons_of_ne hk, values_cons_of_ne hk, ih]

/-! ## Inserting a list of raw pairs -/

/-- Insert every raw pair that parses, in order; the others are skipped. -/
def insertAll (parse : π → Option (κ × ν)) (m : Multimap κ ν) (ps : List π) : Multimap κ ν :=
  ps.foldl (fun m p ↦ match parse p with
    | some (k, v) => insert m k v
    | none => m) m

/-- The value of the last raw pair that parses to the key `k`. -/
def lastValid (parse : π → Option (κ × ν)) (ps : List π) (k : κ) : Option ν :=
  (values (ps.filterMap parse) k).getLast?

variable (parse : π → Option (κ × ν))

@[simp] theorem insertAll_nil (m : Multimap κ ν) : insertAll parse m [] = m := rfl

/-- Two lists inserted one after the other are their concatenation inserted. -/
theorem insertAll_append (m : Multimap κ ν) (ps qs : List π) :
    insertAll parse m (ps ++ qs) = insertAll parse (insertAll parse m ps) qs := by
  simp [insertAll, List.foldl_append]

@[simp] theorem lastValid_nil (k : κ) : lastValid parse [] k = none := rfl

/-- The last valid value of a concatenation is the second list's, and the first
list's only where the second has none. -/
theorem lastValid_append (ps qs : List π) (k : κ) :
    lastValid parse (ps ++ qs) k = (lastValid parse qs k).or (lastValid parse ps k) := by
  simp only [lastValid, values, List.filterMap_append, List.getLast?_append]

/-- Inserting one raw pair at the end. -/
theorem insertAll_concat (m : Multimap κ ν) (ps : List π) (p : π) :
    insertAll parse m (ps ++ [p]) = match parse p with
      | some (k, v) => insert (insertAll parse m ps) k v
      | none => insertAll parse m ps := by
  rw [insertAll_append]
  rfl

/-- **The last valid pair wins.**  A key of a map built by insertions holds exactly
the value of its last raw pair that parses, and keeps what it had when there is
none. -/
theorem values_insertAll (m : Multimap κ ν) (ps : List π) (k : κ) :
    values (insertAll parse m ps) k = match lastValid parse ps k with
      | some v => [v]
      | none => values m k := by
  induction ps using List.reverseRecOn with
  | nil => rfl
  | append_singleton ps p ih =>
      rw [insertAll_concat, lastValid_append]
      cases hp : parse p with
      | none =>
          have hl : lastValid parse [p] k = none := by simp [lastValid, hp]
          simpa [hl] using ih
      | some kv =>
          obtain ⟨k', v⟩ := kv
          by_cases hk : k' = k
          · subst hk
            have hl : lastValid parse [p] k' = some v := by simp [lastValid, hp]
            simp [hl]
          · have hl : lastValid parse [p] k = none := by
              simp [lastValid, hp, values, hk]
            simp only [hl, Option.none_or]
            rw [values_insert_of_ne v (Ne.symm hk)]
            exact ih

end Multimap

end GrpcPhp.Lib
