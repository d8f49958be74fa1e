import Mathlib.Data.List.ReduceOption

/-!
# Reading a source to its end

A reader asks again and again for the next element of a source.  It gets the elements in
order until it is told for the first time that there are no more, and from then on it is
told so every time.  Being told so early is allowed: what was not read is the rest.
-/

universe u

namespace GrpcPhp.Lib

variable {α : Type u}

/-- `Reading src out rest ended`: the answers `out` are a reading of the source `src`,
`rest` is what was not read, and `ended` says whether the reader was told that there is
nothing more. -/
inductive Reading (src : List α) : List (Option α) → List α → Bool → Prop
  | start : Reading src [] src false
  | next {out : List (Option α)} {rest : List α} {a : α} (h : Reading src out (a :: rest) false) :
      Reading src (out ++ [some a]) rest false
  | null {out : List (Option α)} {rest : List α} {ended : Bool} (h : Reading src out rest ended) :
      Reading src (out ++ [none]) rest true

namespace Reading

variable {src rest : List α} {out : List (Option α)} {ended : Bool}

/-- What was read and the rest are the source. -/
theorem append_rest (h : Reading src out rest ended) : out.reduceOption ++ rest = src := by
  induction h with
  | start => rfl
  | next _ ih => simpa [List.reduceOption_append] using ih
  | null _ ih => simpa [List.reduceOption_append] using ih

/-- The reader was told of the end iff one of the answers says so. -/
theorem none_mem (h : Reading src out rest ended) : none ∈ out ↔ ended = true := by
  induction h with
  | start => simp
  | next _ ih => simpa using ih
  | null => simp

/-- A reader of nothing is told so at once. -/
theorem none_mem_of_nil (h : Reading [] out rest ended) (hne : out ≠ []) : none ∈ out := by
  cases h with
  | start => exact absurd rfl hne
  | next h => simpa using h.append_rest
  | null => simp

/-- Once told of the end, the reader is told so every time. -/
theorem pairwise (h : Reading src out rest ended) :
    out.Pairwise fun a b ↦ a = none → b = none := by
  induction h with
  | start => exact .nil
  | next h ih =>
      refine List.pairwise_append.mpr ⟨ih, List.pairwise_singleton .., fun x hx _ _ hn ↦ ?_⟩
      subst hn
      cases h.none_mem.mp hx
  | null _ ih =>
      exact List.pairwise_append.mpr ⟨ih, List.pairwise_singleton .., fun _ _ y hy _ ↦ by
        simpa using hy⟩

/-- A reader that is told of the end only when there is nothing left gets the first element
first. -/
theorem head_eq {x : Option α} {xs : List (Option α)} (h : Reading src (x :: xs) rest ended)
    (hrest : ended = true → rest = []) : x = src.head? := by
  have hall := h.append_rest
  cases x with
  | some a =>
      rw [← hall]
      simp
  | none =>
      have hnulls : xs.reduceOption = [] := by
        refine List.eq_nil_iff_forall_not_mem.mpr fun a ha ↦ ?_
        cases (List.pairwise_cons.mp h.pairwise).1 _ (List.reduceOption_mem_iff.mp ha) rfl
      have hnil := hrest (h.none_mem.mp List.mem_cons_self)
      rw [← hall, List.reduceOption_cons_of_none, hnulls, hnil]
      rfl

end Reading

end GrpcPhp.Lib
