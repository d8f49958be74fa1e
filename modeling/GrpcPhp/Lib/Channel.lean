import Mathlib.Data.List.Basic

/-!
# Channels

Two kinds of one-way channel between two parties, seen from outside: a bounded queue and
a oneshot.  An operation that has to wait gives `none`, so that "the party is blocked" is
an equation.  What a receiver gets once the sender is gone and nothing is left is again
`none`, one level down.
-/

universe u

namespace GrpcPhp.Lib

variable {α : Type u}

namespace Queue

/-- Send to a queue of capacity `cap`; `none` while it is full. -/
def send (cap : Nat) (q : List α) (a : α) : Option (List α) :=
  if q.length < cap then some (q ++ [a]) else none

/-- Receive from a queue; `none` while it is empty and its sender still there. -/
def recv (closed : Bool) : List α → Option (Option α × List α)
  | a :: q => some (some a, q)
  | [] => if closed then some (none, []) else none

variable {cap : Nat} {q q' : List α} {a : α} {closed : Bool}

theorem send_eq_some : send cap q a = some q' ↔ q.length < cap ∧ q' = q ++ [a] := by
  unfold send
  split
  · simp [*, eq_comm]
  · simp [*]

@[simp] theorem recv_cons : recv closed (a :: q) = some (some a, q) := rfl

theorem recv_eq_none : recv closed q = none ↔ q = [] ∧ closed = false := by
  cases q <;> simp [recv]

/-- What a receive gives: the first element, or the end of a closed queue. -/
theorem recv_eq_some {o : Option α} : recv closed q = some (o, q') ↔
    (∃ a, o = some a ∧ q = a :: q') ∨ (closed = true ∧ o = none ∧ q = [] ∧ q' = []) := by
  cases q with
  | nil =>
      simp only [recv, reduceCtorEq, and_false, exists_false, true_and, false_or]
      cases closed <;> simp [eq_comm]
  | cons a q => simp [eq_comm, and_comm]

/-- A receive takes from the front. -/
theorem recv_suffix {o : Option α} (h : recv closed q = some (o, q')) : q' <:+ q := by
  obtain ⟨a, -, rfl⟩ | ⟨-, -, rfl, rfl⟩ := recv_eq_some.mp h
  · exact List.suffix_cons a q'
  · exact List.suffix_rfl

end Queue

namespace Oneshot

/-- Await a oneshot; `none` while nothing was sent and the sender is still there. -/
def await (closed : Bool) : Option α → Option (Option α)
  | some a => some (some a)
  | none => if closed then some none else none

variable {v o : Option α} {closed : Bool}

theorem await_eq_none : await closed v = none ↔ v = none ∧ closed = false := by
  cases v <;> simp [await]

/-- What awaiting gives: the value sent, if one was sent. -/
theorem await_eq_some : await closed v = some o ↔ o = v ∧ (v = none → closed = true) := by
  cases v with
  | none => cases closed <;> simp [await, eq_comm]
  | some a => simp [await, eq_comm]

end Oneshot

end GrpcPhp.Lib
