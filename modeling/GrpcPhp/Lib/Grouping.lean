import GrpcPhp.Lib.Multimap
import Mathlib.Data.List.Nodup

/-!
# Grouping a multimap by key

`group` collects the entries of a multimap per key, with a slot for each key in the order
in which the keys are first seen.  It is a fold that appends to a slot in place; what it
amounts to is `group_eq`: the keys without repetition, each with all its values.

The last part is about a table filled by replacing insertions.  If the keys that go in are
distinct, nothing is replaced and the table is the list of what went in.
-/

universe u v w

namespace GrpcPhp.Lib.Multimap

variable {κ : Type u} {ν : Type v} {π : Type w} [DecidableEq κ]

/-! ## Keys in order of appearance -/

/-- The elements of a list, each at its first occurrence. -/
def firstSeen (l : List κ) : List κ :=
  l.foldl (fun ks k ↦ if k ∈ ks then ks else ks ++ [k]) []

/-- One more element. -/
theorem firstSeen_concat (l : List κ) (k : κ) :
    firstSeen (l ++ [k]) = if k ∈ firstSeen l then firstSeen l else firstSeen l ++ [k] := by
  rw [firstSeen, List.foldl_append]
  rfl

/-- No element is lost. -/
@[simp] theorem mem_firstSeen {l : List κ} {k : κ} : k ∈ firstSeen l ↔ k ∈ l := by
  induction l using List.reverseRecOn with
  | nil => rfl
  | append_singleton l a ih =>
      rw [firstSeen_concat, List.mem_append, List.mem_singleton]
      split
      · next ha =>
        rw [ih, or_iff_left_of_imp]
        rintro rfl
        exact ih.mp ha
      · rw [List.mem_append, List.mem_singleton, ih]

/-- The elements are ordered by their first occurrence. -/
theorem firstSeen_pairwise (l : List κ) :
    (firstSeen l).Pairwise fun k k' ↦ l.idxOf k < l.idxOf k' := by
  induction l using List.reverseRecOn with
  | nil => exact .nil
  | append_singleton l a ih =>
      have hold : (firstSeen l).Pairwise
          fun k k' ↦ (l ++ [a]).idxOf k < (l ++ [a]).idxOf k' := by
        refine ih.imp_of_mem fun hk hk' h ↦ ?_
        rwa [List.idxOf_append_of_mem (mem_firstSeen.mp hk),
          List.idxOf_append_of_mem (mem_firstSeen.mp hk')]
      rw [firstSeen_concat]
      split
      · exact hold
      · next ha =>
        -- a new element comes after everything before it
        refine List.pairwise_append.mpr ⟨hold, List.pairwise_singleton _ _, fun k hk k' hk' ↦ ?_⟩
        rw [List.mem_singleton] at hk'
        subst hk'
        rw [mem_firstSeen] at hk ha
        rw [List.idxOf_append_of_mem hk, List.idxOf_append_of_notMem ha]
        exact Nat.lt_of_lt_of_le (List.idxOf_lt_length_of_mem hk) (Nat.le_add_right _ _)

/-- No element occurs twice. -/
theorem nodup_firstSeen (l : List κ) : (firstSeen l).Nodup := by
  refine (firstSeen_pairwise l).imp ?_
  rintro k _ h rfl
  exact Nat.lt_irrefl _ h

/-! ## Grouping -/

/-- Append a value to the slot of its key, or open a slot at the end. -/
def push : List (κ × List ν) → κ → ν → List (κ × List ν)
  | [], k, v => [(k, [v])]
  | (k', vs) :: rest, k, v =>
      if k' = k then (k', vs ++ [v]) :: rest else (k', vs) :: push rest k v

/-- The values of each key, in order of first appearance. -/
def group (m : Multimap κ ν) : List (κ × List ν) := m.foldl (fun gs e ↦ push gs e.1 e.2) []

/-- A key without a slot gets one at the end. -/
theorem push_of_notMem {gs : List (κ × List ν)} {k : κ} (v : ν) (h : k ∉ gs.map Prod.fst) :
    push gs k v = gs ++ [(k, [v])] := by
  induction gs with
  | nil => rfl
  | cons g gs ih =>
      rw [List.map_cons, List.mem_cons, not_or] at h
      rw [push, if_neg (Ne.symm h.1), ih h.2, List.cons_append]

/-- A key that has a slot gets the value there. -/
theorem push_map_of_mem {ks : List κ} {k : κ} {f g : κ → List ν} {v : ν} (hnd : ks.Nodup)
    (h : k ∈ ks) (hk : g k = f k ++ [v]) (hne : ∀ k' ≠ k, g k' = f k') :
    push (ks.map fun k ↦ (k, f k)) k v = ks.map fun k ↦ (k, g k) := by
  induction ks with
  | nil => cases h
  | cons a ks ih =>
      obtain ⟨ha, hnd⟩ := List.nodup_cons.mp hnd
      rw [List.map_cons, List.map_cons, push]
      by_cases hak : a = k
      · subst hak
        rw [if_pos rfl, hk, List.map_congr_left fun k' hk' ↦ ?_]
        rw [hne k' fun hc ↦ ha (hc ▸ hk')]
      · rw [if_neg hak, hne a hak, ih hnd ((List.mem_cons.mp h).resolve_left (Ne.symm hak))]

/-- The values of a key in a longer multimap. -/
theorem values_append (m m' : Multimap κ ν) (k : κ) :
    values (m ++ m') k = values m k ++ values m' k := List.filterMap_append

/-- A key has values exactly if it has an entry. -/
theorem values_ne_nil_iff {m : Multimap κ ν} {k : κ} : values m k ≠ [] ↔ k ∈ m.map Prod.fst := by
  simp [values]

/-- **What grouping does.**  Every key that occurs has one slot, in the order of first
appearance, with all its values in order. -/
theorem group_eq (m : Multimap κ ν) :
    group m = (firstSeen (m.map Prod.fst)).map fun k ↦ (k, values m k) := by
  induction m using List.reverseRecOn with
  | nil => rfl
  | append_singleton m e ih =>
      have hstep : group (m ++ [e]) = push (group m) e.1 e.2 := by
        rw [group, List.foldl_append]
        rfl
      have hself : values (m ++ [e]) e.1 = values m e.1 ++ [e.2] := by
        rw [values_append, values_cons_self, values_nil]
      have hother : ∀ k ≠ e.1, values (m ++ [e]) k = values m k := by
        intro k hk
        rw [values_append, values_cons_of_ne hk.symm, values_nil, List.append_nil]
      rw [hstep, ih, List.map_append, List.map_singleton, firstSeen_concat]
      split
      · next h => exact push_map_of_mem (nodup_firstSeen _) h hself hother
      · next h =>
        have hnil : values m e.1 = [] := by
          by_contra hne
          exact h (mem_firstSeen.mpr (values_ne_nil_iff.mp hne))
        have hnew : e.1 ∉ ((firstSeen (m.map Prod.fst)).map fun k ↦ (k, values m k)).map
            Prod.fst := by
          rw [List.map_map]
          simpa using h
        rw [push_of_notMem _ hnew, List.map_append, List.map_singleton, hself, hnil,
          List.nil_append, List.map_congr_left fun k hk ↦ ?_]
        rw [hother k fun hc ↦ h (hc ▸ hk)]

/-- The keys of a grouping, in order. -/
theorem map_fst_group (m : Multimap κ ν) : (group m).map Prod.fst = firstSeen (m.map Prod.fst) := by
  rw [group_eq, List.map_map]
  exact List.map_id _

/-- The slots of a grouping. -/
theorem mem_group_iff {m : Multimap κ ν} {k : κ} {vs : List ν} :
    (k, vs) ∈ group m ↔ vs = values m k ∧ vs ≠ [] := by
  rw [group_eq, List.mem_map]
  constructor
  · rintro ⟨k', hk', h⟩
    cases h
    exact ⟨rfl, values_ne_nil_iff.mpr (mem_firstSeen.mp hk')⟩
  · rintro ⟨rfl, h⟩
    exact ⟨k, mem_firstSeen.mpr (values_ne_nil_iff.mp h), rfl⟩

/-! ## Insertions that replace nothing -/

/-- A new key is inserted at the end. -/
theorem insert_of_notMem {m : Multimap κ ν} {k : κ} (v : ν) (h : k ∉ m.map Prod.fst) :
    insert m k v = m ++ [(k, v)] := by
  induction m with
  | nil => rfl
  | cons e m ih =>
      rw [List.map_cons, List.mem_cons, not_or] at h
      rw [insert, if_neg (Ne.symm h.1), ih h.2, List.cons_append]

/-- A table that is filled with distinct keys holds what was put in. -/
theorem insertAll_of_nodup (parse : π → Option (κ × ν)) {ps : List π}
    (h : ((ps.filterMap parse).map Prod.fst).Nodup) :
    insertAll parse [] ps = ps.filterMap parse := by
  induction ps using List.reverseRecOn with
  | nil => rfl
  | append_singleton ps p ih =>
      rw [List.filterMap_append, List.map_append] at h
      rw [insertAll_concat, ih h.of_append_left, List.filterMap_append]
      cases hp : parse p with
      | none => simp [hp]
      | some e =>
          have hnew : e.1 ∉ (ps.filterMap parse).map Prod.fst := by
            intro hmem
            exact (List.nodup_append.mp h).2.2 e.1 hmem e.1 (by simp [hp]) rfl
          simp [insert_of_notMem _ hnew, hp]

/-! ## Insertions in blocks

Raw pairs often come sorted by key: all pairs of one key, then all pairs of another.  Each
block then leaves one entry at most. -/

/-- An insertion replaces the last entry, if that has the key. -/
theorem insert_concat_self {m : Multimap κ ν} {k : κ} (u v : ν) (h : k ∉ m.map Prod.fst) :
    insert (m ++ [(k, u)]) k v = m ++ [(k, v)] := by
  induction m with
  | nil => simp [insert, erase]
  | cons e m ih =>
      rw [List.map_cons, List.mem_cons, not_or] at h
      rw [List.cons_append, insert, if_neg (Ne.symm h.1), ih h.2, List.cons_append]

/-- The pairs of a new key leave the last of their values. -/
theorem insertAll_block (parse : π → Option (κ × ν)) {m : Multimap κ ν} {k : κ} {ps : List π}
    (hk : k ∉ m.map Prod.fst) (hps : ∀ p ∈ ps, ∀ e, parse p = some e → e.1 = k) :
    insertAll parse m ps = m ++ ((lastValid parse ps k).map fun v ↦ (k, v)).toList := by
  induction ps using List.reverseRecOn with
  | nil => simp
  | append_singleton ps p ih =>
      have ih := ih fun q hq ↦ hps q (List.mem_append_left _ hq)
      rw [insertAll_concat, lastValid_append, ih]
      cases hp : parse p with
      | none =>
          have hlast : lastValid parse [p] k = none := by simp [lastValid, hp]
          rw [hlast, Option.none_or]
      | some e =>
          obtain ⟨k', v⟩ := e
          obtain rfl : k' = k := hps p (by simp) _ hp
          have hlast : lastValid parse [p] k' = some v := by simp [lastValid, hp]
          rw [hlast, Option.some_or]
          cases lastValid parse ps k' with
          | none => simpa using insert_of_notMem v hk
          | some u => simpa using insert_concat_self u v hk

/-- Blocks of different keys leave one entry each, unless no pair of the block parses. -/
theorem insertAll_blocks (parse : π → Option (κ × ν)) {bs : List (κ × List π)}
    (hnd : (bs.map Prod.fst).Nodup)
    (hbs : ∀ b ∈ bs, ∀ p ∈ b.2, ∀ e, parse p = some e → e.1 = b.1) :
    insertAll parse [] (bs.flatMap Prod.snd)
      = bs.filterMap fun b ↦ (lastValid parse b.2 b.1).map fun v ↦ (b.1, v) := by
  induction bs using List.reverseRecOn with
  | nil => rfl
  | append_singleton bs b ih =>
      rw [List.map_append] at hnd
      have hnew : b.1 ∉ (bs.filterMap fun b ↦ (lastValid parse b.2 b.1).map
          fun v ↦ (b.1, v)).map Prod.fst := by
        intro hmem
        obtain ⟨e, he, hfst⟩ := List.mem_map.mp hmem
        obtain ⟨b', hb', heq⟩ := List.mem_filterMap.mp he
        obtain ⟨v, -, rfl⟩ := Option.map_eq_some_iff.mp heq
        exact (List.nodup_append.mp hnd).2.2 b'.1 (List.mem_map_of_mem hb') b.1 (by simp) hfst
      rw [List.flatMap_append, List.flatMap_singleton, insertAll_append,
        ih hnd.of_append_left fun b' hb' ↦ hbs b' (List.mem_append_left _ hb'),
        insertAll_block parse hnew (hbs b (by simp)), List.filterMap_append]
      cases hlast : lastValid parse b.2 b.1 <;> simp [hlast]

/-- Different keys are groups of their own. -/
theorem group_of_nodup {m : Multimap κ ν} (h : (m.map Prod.fst).Nodup) :
    group m = m.map fun e ↦ (e.1, [e.2]) := by
  induction m using List.reverseRecOn with
  | nil => rfl
  | append_singleton m e ih =>
      rw [List.map_append] at h
      have hnew : e.1 ∉ (m.map fun e ↦ (e.1, [e.2])).map Prod.fst := by
        rw [List.map_map]
        intro hmem
        exact (List.nodup_append.mp h).2.2 e.1 hmem e.1 (by simp) rfl
      rw [group, List.foldl_append, ← group, ih h.of_append_left, List.foldl_cons,
        List.foldl_nil, push_of_notMem _ hnew, List.map_append, List.map_singleton]

end GrpcPhp.Lib.Multimap
