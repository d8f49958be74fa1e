import GrpcPhp.Lib.Run
import GrpcPhp.Php.Error
import Mathlib.Logic.Function.Basic

/-!
# The runtimes of a process

`get_runtime` gives a PHP thread its tokio runtime: one for the whole process, or one for
each thread, as an environment variable says when it is first read.  Threads call it at the
same time.  In multi-thread mode the cell is looked at, a runtime is built, the cell is set
and looked at again, and other threads may do the same in between; a runtime that is built
too late is dropped.

Here each thread is a small state machine around the shared cells, and the steps of any
number of threads are interleaved.  `runtime_of_run` says what they agree on.
-/

namespace GrpcPhp

open Lib Php Function

/-! ## The cells and the threads -/

/-- `Mode`. -/
inductive Mode where
  | currentThread
  | multiThread
deriving DecidableEq, Repr

/-- The mode that a value of `GRPC_PHP_RS_RUNTIME` asks for. -/
def Mode.ofEnv : Option String → Mode
  | some "multi-thread" | some "multi_thread" | some "mt" => .multiThread
  | _ => .currentThread

/-- Where a thread is in `get_runtime`. -/
inductive Fetching where
  /-- Not in it. -/
  | outside
  /-- About to look at `MULTI`. -/
  | multiGet
  /-- About to build a runtime for the process. -/
  | multiNew
  /-- About to set `MULTI` to the runtime it has built. -/
  | multiSet (rt : ℕ)
  /-- About to look at `MULTI` again. -/
  | multiGetAgain
  /-- About to look at `LOCAL`. -/
  | localGet
  /-- About to build a runtime for the thread. -/
  | localNew
deriving DecidableEq, Repr

/-- The cells of the process, its threads, and what `get_runtime` has returned to them.  A
runtime is a number. -/
structure Process where
  mode : Option Mode := none
  multi : Option ℕ := none
  /-- `LOCAL`, of each thread. -/
  locals : ℕ → Option ℕ := fun _ ↦ none
  /-- The runtimes built so far. -/
  made : ℕ := 0
  threads : ℕ → Fetching := fun _ ↦ .outside
  returned : List (ℕ × Except GrpcError ℕ) := []

/-- What can happen. -/
inductive ProcessLabel where
  /-- A thread calls `get_runtime`; what the environment variable is at this moment. -/
  | getRuntime (thread : ℕ) (env : Option String)
  /-- The next step of a thread, and whether a runtime could be built if it builds one. -/
  | next (thread : ℕ) (built : Except String Unit)
deriving DecidableEq

/-- Set a cell that can be set once. -/
def setOnce {α : Type*} (cell : Option α) (a : α) : Option α := cell.or (some a)

namespace Process

/-- A thread goes on. -/
def goto (p : Process) (t : ℕ) (f : Fetching) : Process :=
  { p with threads := update p.threads t f }

/-- `get_runtime` returns to a thread. -/
def ret (p : Process) (t : ℕ) (r : Except GrpcError ℕ) : Process :=
  { p.goto t .outside with returned := p.returned ++ [(t, r)] }

/-- `mode`, and the way it decides. -/
def getRuntime (p : Process) (t : ℕ) (env : Option String) : Process :=
  let mode := p.mode.getD (Mode.ofEnv env)
  { p.goto t (match mode with
      | .multiThread => .multiGet
      | .currentThread => .localGet) with mode := some mode }

/-- The next step of a thread. -/
def next (p : Process) (t : ℕ) (built : Except String Unit) : Option Process :=
  match p.threads t with
  | .outside => none
  | .multiGet => match p.multi with
      | some rt => some (p.ret t (.ok rt))
      | none => some (p.goto t .multiNew)
  | .multiNew => match built with
      | .ok () => some { p.goto t (.multiSet p.made) with made := p.made + 1 }
      | .error text => some (p.ret t (.error (.runtimeInit text)))
  | .multiSet rt => some { p.goto t .multiGetAgain with multi := setOnce p.multi rt }
  | .multiGetAgain => match p.multi with
      | some rt => some (p.ret t (.ok rt))
      | none => some (p.ret t (.error (.runtimeInit "runtime init failed")))
  | .localGet => match p.locals t with
      | some rt => some (p.ret t (.ok rt))
      | none => some (p.goto t .localNew)
  | .localNew => match built with
      | .ok () => some { p.ret t (.ok p.made) with
          locals := update p.locals t (setOnce (p.locals t) p.made)
          made := p.made + 1 }
      | .error text => some (p.ret t (.error (.runtimeInit text)))

/-- One step. -/
def step (p : Process) : ProcessLabel → Option Process
  | .getRuntime t env => if p.threads t = .outside then some (p.getRuntime t env) else none
  | .next t built => p.next t built

/-! ## What a step does -/

/-- What a step does. -/
inductive Moves (p : Process) : ProcessLabel → Process → Prop
  | /-- `get_runtime` is called. -/
    calls {t : ℕ} {env : Option String} : p.threads t = .outside →
      Moves p (.getRuntime t env) (p.getRuntime t env)
  | /-- The process has a runtime. -/
    shared {t rt : ℕ} {built : Except String Unit} :
      p.threads t = .multiGet ∨ p.threads t = .multiGetAgain → p.multi = some rt →
      Moves p (.next t built) (p.ret t (.ok rt))
  | /-- The process has none. -/
    noneShared {t : ℕ} {built : Except String Unit} : p.threads t = .multiGet → p.multi = none →
      Moves p (.next t built) (p.goto t .multiNew)
  | /-- A runtime is built for the process. -/
    builds {t : ℕ} : p.threads t = .multiNew → Moves p (.next t (.ok ()))
      { p.goto t (.multiSet p.made) with made := p.made + 1 }
  | /-- A runtime could not be built. -/
    fails {t : ℕ} {text : String} : p.threads t = .multiNew ∨ p.threads t = .localNew →
      Moves p (.next t (.error text)) (p.ret t (.error (.runtimeInit text)))
  | /-- `MULTI` is set, if it was not. -/
    sets {t rt : ℕ} {built : Except String Unit} : p.threads t = .multiSet rt →
      Moves p (.next t built) { p.goto t .multiGetAgain with multi := setOnce p.multi rt }
  | /-- `MULTI` has no value after it was set. -/
    lost {t : ℕ} {built : Except String Unit} : p.threads t = .multiGetAgain → p.multi = none →
      Moves p (.next t built) (p.ret t (.error (.runtimeInit "runtime init failed")))
  | /-- The thread has a runtime. -/
    own {t rt : ℕ} {built : Except String Unit} : p.threads t = .localGet → p.locals t = some rt →
      Moves p (.next t built) (p.ret t (.ok rt))
  | /-- The thread has none. -/
    noneOwn {t : ℕ} {built : Except String Unit} : p.threads t = .localGet → p.locals t = none →
      Moves p (.next t built) (p.goto t .localNew)
  | /-- A runtime is built for the thread. -/
    buildsOwn {t : ℕ} : p.threads t = .localNew → Moves p (.next t (.ok ()))
      { p.ret t (.ok p.made) with
        locals := update p.locals t (setOnce (p.locals t) p.made)
        made := p.made + 1 }

variable {p p' : Process} {l : ProcessLabel} {ls : List ProcessLabel}

theorem moves_of_step (h : p.step l = some p') : p.Moves l p' := by
  cases l with
  | getRuntime t env =>
      obtain ⟨ht, h⟩ := Option.ite_none_right_eq_some.mp h
      obtain rfl := Option.some.inj h
      exact .calls ht
  | next t built =>
      simp only [step, next] at h
      split at h
      · cases h
      · next ht =>
        split at h
        · next rt hm =>
          cases h
          exact .shared (.inl ht) hm
        · next hm =>
          cases h
          exact .noneShared ht hm
      · next ht =>
        cases built with
        | ok u =>
            cases h
            exact .builds ht
        | error text =>
            cases h
            exact .fails (.inl ht)
      · next rt ht =>
        cases h
        exact .sets ht
      · next ht =>
        split at h
        · next rt hm =>
          cases h
          exact .shared (.inr ht) hm
        · next hm =>
          cases h
          exact .lost ht hm
      · next ht =>
        split at h
        · next rt hm =>
          cases h
          exact .own ht hm
        · next hm =>
          cases h
          exact .noneOwn ht hm
      · next ht =>
        cases built with
        | ok u =>
            cases h
            exact .buildsOwn ht
        | error text =>
            cases h
            exact .fails (.inr ht)

/-! ## What the threads agree on -/

/-- What a thread relies on where it is. -/
def Fits (p : Process) (t : ℕ) : Fetching → Prop
  | .outside => True
  | .multiGet | .multiNew | .multiSet _ => p.mode = some .multiThread
  | .multiGetAgain => p.mode = some .multiThread ∧ p.multi.isSome = true
  | .localGet => p.mode = some .currentThread
  | .localNew => p.mode = some .currentThread ∧ p.locals t = none

/-- It goes on to hold when the cells that are set stay. -/
theorem Fits.mono {t : ℕ} {f : Fetching} (h : p.Fits t f)
    (hmode : ∀ m, p.mode = some m → p'.mode = some m)
    (hmulti : p.multi.isSome = true → p'.multi.isSome = true)
    (hlocal : f = .localNew → p.locals t = none → p'.locals t = none) : p'.Fits t f := by
  cases f with
  | outside => trivial
  | multiGet | multiNew | multiSet | localGet => exact hmode _ h
  | multiGetAgain => exact ⟨hmode _ h.1, hmulti h.2⟩
  | localNew => exact ⟨hmode _ h.1, hlocal rfl h.2⟩

/-- The runtime that `get_runtime` may return to a thread. -/
def Owns (p : Process) (t i : ℕ) : Prop :=
  p.mode = some .multiThread ∧ p.multi = some i ∨ p.mode = some .currentThread ∧ p.locals t = some i

/-- The cells, the threads and what was returned fit together. -/
structure Consistent (p : Process) : Prop where
  fits : ∀ t, p.Fits t (p.threads t)
  owns : ∀ t i, (t, .ok i) ∈ p.returned → p.Owns t i
  lt_made : ∀ t i, p.locals t = some i → i < p.made
  inj : ∀ t t' i, p.locals t = some i → p.locals t' = some i → t = t'

namespace Consistent

variable {t rt : ℕ} {f : Fetching}

theorem goto (h : p.Consistent) (hf : p.Fits t f) : (p.goto t f).Consistent := by
  refine ⟨fun t' ↦ ?_, h.owns, h.lt_made, h.inj⟩
  show p.Fits t' (update p.threads t f t')
  by_cases ht : t' = t
  · subst ht
    rwa [update_self]
  · rw [update_of_ne ht]
    exact h.fits t'

/-- Something is returned. -/
theorem log (h : p.Consistent) {r : Except GrpcError ℕ} (hr : ∀ i, r = .ok i → p.Owns t i) :
    ({ p with returned := p.returned ++ [(t, r)] } : Process).Consistent := by
  refine ⟨h.fits, fun t' i hi ↦ ?_, h.lt_made, h.inj⟩
  rcases List.mem_append.mp hi with hi | hi
  · exact h.owns t' i hi
  · obtain ⟨rfl, rfl⟩ := Prod.mk.inj (List.mem_singleton.mp hi)
    exact hr i rfl

theorem ret (h : p.Consistent) {r : Except GrpcError ℕ} (hr : ∀ i, r = .ok i → p.Owns t i) :
    (p.ret t r).Consistent :=
  (h.log hr).goto trivial

/-- The mode is decided, or was decided so before. -/
theorem setMode (h : p.Consistent) {m : Mode} (hm : ∀ m', p.mode = some m' → m' = m) :
    ({ p with mode := some m } : Process).Consistent := by
  have hmode m' (h' : p.mode = some m') : some m = some m' := congrArg some (hm m' h').symm
  refine ⟨fun t ↦ (h.fits t).mono hmode id fun _ ↦ id, fun t i hi ↦ ?_, h.lt_made, h.inj⟩
  exact (h.owns t i hi).imp (fun ho ↦ ⟨hmode _ ho.1, ho.2⟩) fun ho ↦ ⟨hmode _ ho.1, ho.2⟩

/-- A runtime is built. -/
theorem build (h : p.Consistent) : ({ p with made := p.made + 1 } : Process).Consistent :=
  ⟨h.fits, h.owns, fun t i hi ↦ Nat.lt_succ_of_lt (h.lt_made t i hi), h.inj⟩

/-- `MULTI` is set; the value that is there stays. -/
theorem setMulti (h : p.Consistent) (rt : ℕ) :
    ({ p with multi := setOnce p.multi rt } : Process).Consistent := by
  refine ⟨fun t ↦ (h.fits t).mono (fun _ ↦ id) (fun _ ↦ by simp [setOnce]) fun _ ↦ id,
    fun t i hi ↦ ?_, h.lt_made, h.inj⟩
  refine (h.owns t i hi).imp (fun ho ↦ ⟨ho.1, ?_⟩) id
  simp [setOnce, ho.2]

/-- The `LOCAL` of a thread is set, to a runtime that was just built. -/
theorem setLocal (h : p.Consistent) (ht : p.threads t = .outside) (hl : p.locals t = none) :
    ({ p with
        locals := update p.locals t (setOnce (p.locals t) p.made)
        made := p.made + 1 } : Process).Consistent := by
  have hcell : setOnce (p.locals t) p.made = some p.made := by rw [hl]; rfl
  -- what another thread finds is as before, and it is older than the new runtime
  have hcases {t' i} (hi : update p.locals t (some p.made) t' = some i) :
      t' = t ∧ i = p.made ∨ t' ≠ t ∧ p.locals t' = some i := by
    by_cases heq : t' = t
    · rw [heq, update_self] at hi
      exact .inl ⟨heq, (Option.some.inj hi).symm⟩
    · rw [update_of_ne heq] at hi
      exact .inr ⟨heq, hi⟩
  rw [hcell]
  refine ⟨fun t' ↦ ?_, fun t' i hi ↦ ?_, fun t' i hi ↦ ?_, fun t₁ t₂ i h₁ h₂ ↦ ?_⟩
  · refine (h.fits t').mono (fun _ ↦ id) id fun hp hnone ↦ ?_
    have hne : t' ≠ t := fun heq ↦ by
      rw [heq, ht] at hp
      cases hp
    exact (update_of_ne hne ..).trans hnone
  · refine (h.owns t' i hi).imp id fun ho ↦ ⟨ho.1, ?_⟩
    have hne : t' ≠ t := fun heq ↦ by
      rw [heq, hl] at ho
      cases ho.2
    exact (update_of_ne hne ..).trans ho.2
  · rcases hcases hi with ⟨-, rfl⟩ | ⟨-, hi⟩
    · exact Nat.lt_succ_self _
    · exact Nat.lt_succ_of_lt (h.lt_made t' i hi)
  · rcases hcases h₁ with ⟨rfl, rfl⟩ | ⟨-, h₁⟩
    · rcases hcases h₂ with ⟨rfl, -⟩ | ⟨-, h₂⟩
      · rfl
      · exact absurd (h.lt_made t₂ _ h₂) (Nat.lt_irrefl _)
    · rcases hcases h₂ with ⟨-, rfl⟩ | ⟨-, h₂⟩
      · exact absurd (h.lt_made t₁ _ h₁) (Nat.lt_irrefl _)
      · exact h.inj t₁ t₂ i h₁ h₂

theorem step (h : p.Consistent) (hs : p.step l = some p') : p'.Consistent := by
  cases moves_of_step hs with
  | @calls t env ht =>
      have hm : ∀ m', p.mode = some m' → m' = p.mode.getD (Mode.ofEnv env) := by
        intro m' hm'
        rw [hm', Option.getD_some]
      refine (h.setMode hm).goto ?_
      cases p.mode.getD (Mode.ofEnv env) <;> rfl
  | @shared t rt _ ht hm =>
      have hf := h.fits t
      refine h.ret fun i hi ↦ .inl ⟨?_, by rw [hm, Except.ok.inj hi]⟩
      rcases ht with ht | ht
      · rw [ht] at hf
        exact hf
      · rw [ht] at hf
        exact hf.1
  | @noneShared t _ ht hm =>
      have hf := h.fits t
      rw [ht] at hf
      exact h.goto hf
  | @builds t ht =>
      have hf := h.fits t
      rw [ht] at hf
      exact h.build.goto hf
  | fails ht => exact h.ret fun i hi ↦ by cases hi
  | @sets t rt _ ht =>
      have hf := h.fits t
      rw [ht] at hf
      exact (h.setMulti rt).goto ⟨hf, by simp [setOnce]⟩
  | lost ht hm => exact h.ret fun i hi ↦ by cases hi
  | @own t rt _ ht hl =>
      have hf := h.fits t
      rw [ht] at hf
      exact h.ret fun i hi ↦ .inr ⟨hf, by rw [hl, Except.ok.inj hi]⟩
  | @noneOwn t _ ht hl =>
      have hf := h.fits t
      rw [ht] at hf
      exact h.goto ⟨hf, hl⟩
  | @buildsOwn t ht =>
      have hf := h.fits t
      rw [ht] at hf
      have hset := (h.goto (t := t) (f := .outside) trivial).setLocal (t := t) (update_self ..) hf.2
      refine hset.log fun i hi ↦ .inr ⟨hf.1, ?_⟩
      rw [← Except.ok.inj hi]
      exact (update_self ..).trans (by show setOnce (p.locals t) p.made = _; rw [hf.2]; rfl)

end Consistent

/-- `MULTI` is never found empty after it was set. -/
theorem Consistent.multi_ne_none (h : p.Consistent) {t : ℕ} (ht : p.threads t = .multiGetAgain) :
    p.multi ≠ none := by
  intro hm
  have hf := h.fits t
  rw [ht] at hf
  have hsome := hf.2
  rw [hm] at hsome
  cases hsome

end Process

/-- The mode that a call of `get_runtime` would decide on. -/
def ProcessLabel.mode? : ProcessLabel → Option Mode
  | .getRuntime _ env => some (Mode.ofEnv env)
  | .next _ _ => none

namespace Process

variable {p p' : Process} {l : ProcessLabel} {ls : List ProcessLabel}

/-- The mode is the one of the first call, and only a runtime that could not be built is
reported. -/
structure Explained (ls : List ProcessLabel) (p : Process) : Prop where
  mode : p.mode = ls.findSome? ProcessLabel.mode?
  errors : ∀ t e, (t, .error e) ∈ p.returned →
    ∃ text, .next t (.error text) ∈ ls ∧ e = .runtimeInit text

namespace Explained

variable {t : ℕ}

/-- A step that returns nothing. -/
theorem other (h : Explained ls p) (hmode : p'.mode = p.mode.or l.mode?)
    (hret : p'.returned = p.returned) : Explained (ls ++ [l]) p' := by
  refine ⟨?_, fun t e he ↦ ?_⟩
  · rw [hmode, h.mode, List.findSome?_append, List.findSome?_singleton]
  · obtain ⟨text, hmem, rfl⟩ := h.errors t e (hret ▸ he)
    exact ⟨text, List.mem_append_left _ hmem, rfl⟩

/-- A step that returns. -/
theorem ret (h : Explained ls p) {built : Except String Unit} {r : Except GrpcError ℕ}
    (hmode : p'.mode = p.mode) (hret : p'.returned = p.returned ++ [(t, r)])
    (hr : ∀ e, r = .error e → ∃ text, built = .error text ∧ e = .runtimeInit text) :
    Explained (ls ++ [.next t built]) p' := by
  refine ⟨?_, fun t' e he ↦ ?_⟩
  · rw [hmode, h.mode, List.findSome?_append, List.findSome?_singleton]
    exact (Option.or_none ..).symm
  · rw [hret] at he
    rcases List.mem_append.mp he with he | he
    · obtain ⟨text, hmem, rfl⟩ := h.errors t' e he
      exact ⟨text, List.mem_append_left _ hmem, rfl⟩
    · obtain ⟨rfl, rfl⟩ := Prod.mk.inj (List.mem_singleton.mp he)
      obtain ⟨text, rfl, rfl⟩ := hr e rfl
      exact ⟨text, List.mem_append_right _ List.mem_cons_self, rfl⟩

theorem step (h : Explained ls p) (hc : p.Consistent) (hs : p.step l = some p') :
    Explained (ls ++ [l]) p' := by
  have hnone : p.mode = p.mode.or none := (Option.or_none ..).symm
  cases moves_of_step hs with
  | calls =>
      refine h.other ?_ rfl
      show some (p.mode.getD _) = p.mode.or (some _)
      cases p.mode <;> rfl
  | noneShared | builds | sets | noneOwn => exact h.other hnone rfl
  | shared | own | buildsOwn => exact h.ret rfl rfl nofun
  | fails ht => exact h.ret rfl rfl fun e he ↦ ⟨_, rfl, (Except.error.inj he).symm⟩
  | lost ht hm => exact absurd hm (hc.multi_ne_none ht)

end Explained

end Process

/-- **Threads agree on their runtimes.**  However the calls of `get_runtime` on any number of
threads are interleaved, and whatever runtimes fail to be built, the mode is the one of the
first call.  In multi-thread mode all threads are given one runtime, also those that built
another one at the same time; otherwise each thread is always given the same, and no two
threads are.  An error is always one of building a runtime. -/
theorem runtime_of_run {ls : List ProcessLabel} {p : Process}
    (h : Run (pgraph Process.step) {} ls p) :
    p.mode = ls.findSome? ProcessLabel.mode?
      ∧ (∀ t t' i j, (t, .ok i) ∈ p.returned → (t', .ok j) ∈ p.returned →
          p.mode = some .multiThread ∧ i = j ∨ p.mode = some .currentThread ∧ (i = j ↔ t = t'))
      ∧ ∀ t e, (t, .error e) ∈ p.returned →
          ∃ text, .next t (.error text) ∈ ls ∧ e = .runtimeInit text := by
  have hboth : p.Consistent ∧ Process.Explained ls p :=
    h.invariant (I := fun ls p ↦ p.Consistent ∧ Process.Explained ls p)
      ⟨⟨fun _ ↦ trivial, fun _ _ hi ↦ absurd hi List.not_mem_nil, fun _ _ hi ↦ (by cases hi),
          fun _ _ _ hi ↦ (by cases hi)⟩,
        ⟨rfl, fun _ _ he ↦ absurd he List.not_mem_nil⟩⟩
      fun _ _ _ _ ih hs ↦ ⟨ih.1.step hs, ih.2.step ih.1 hs⟩
  refine ⟨hboth.2.mode, fun t t' i j hi hj ↦ ?_, hboth.2.errors⟩
  rcases hboth.1.owns t i hi with ⟨hm, hmulti⟩ | ⟨hm, hlocal⟩
  · rcases hboth.1.owns t' j hj with ⟨-, hmulti'⟩ | ⟨hm', -⟩
    · exact .inl ⟨hm, Option.some.inj (hmulti.symm.trans hmulti')⟩
    · cases hm.symm.trans hm'
  · rcases hboth.1.owns t' j hj with ⟨hm', -⟩ | ⟨-, hlocal'⟩
    · cases hm.symm.trans hm'
    · refine .inr ⟨hm, fun heq ↦ hboth.1.inj t t' i hlocal (heq ▸ hlocal'), fun heq ↦ ?_⟩
      exact Option.some.inj (hlocal.symm.trans (heq ▸ hlocal'))

/-- Two threads find no runtime, and both build one. -/
def ProcessLabel.racing : List ProcessLabel :=
  [.getRuntime 0 (some "mt"), .getRuntime 1 none, .next 0 (.ok ()), .next 1 (.ok ()),
    .next 0 (.ok ()), .next 1 (.ok ()), .next 1 (.ok ()), .next 1 (.ok ()), .next 0 (.ok ()),
    .next 0 (.ok ())]

/-- The second one is faster, and the first is given its runtime. -/
theorem runtime_of_run_racing : ∃ p, Run (pgraph Process.step) {} ProcessLabel.racing p
    ∧ p.mode = some .multiThread ∧ p.returned = [(1, .ok 1), (0, .ok 1)]
    ∧ ∀ t t' i j, (t, .ok i) ∈ p.returned → (t', .ok j) ∈ p.returned →
      p.mode = some .multiThread ∧ i = j ∨ p.mode = some .currentThread ∧ (i = j ↔ t = t') :=
  have hrun := Run.of_foldlM rfl
  ⟨_, hrun, rfl, rfl, (runtime_of_run hrun).2.1⟩

end GrpcPhp
