import GrpcPhp.Call.Method
import GrpcPhp.Lib.Intern
import GrpcPhp.Lib.Run
import Mathlib.Data.List.Nodup
import Mathlib.Data.List.Perm.Subperm

/-!
# Call credentials

A `Grpc\CallCredentials` object (`credentials.rs`) is a cell with a PHP callable behind a lock.
`createFromPlugin` fills one, `createComposite` copies the callable of its first argument into a
new one, and channel credentials, channels and calls refer to a cell by sharing it.  A batch that
starts an RPC invokes the callable, and `invoke_call_plugin` keeps the lock until the callable
has returned.

The callable is PHP code.  It may use the extension, make calls of its own and so invoke further
plugins, on the one thread it runs on.  The lock is not reentrant: a thread that comes to a cell
it has locked itself waits for itself.  So the state has the invocations in progress, and the cell
that the thread waits for; whether a value is callable is up to PHP, and may change.
-/

namespace GrpcPhp

open Lib Php

/-! ## The objects -/

/-- How call credentials are made. -/
inductive CallOrigin where
  | createFromPlugin (callback : Zval)
  | createComposite (creds1 creds2 : PluginRef)

/-- `GrpcCallCredentials::create_from_plugin`: what the new cell holds. -/
def createFromPlugin (callback : Zval) (isCallable : Bool) : Except PhpException (Option Zval) :=
  if !isCallable then .error (.default "createFromPlugin expects a callable")
  else .ok (some callback)

/-- `GrpcCallCredentials::create_composite`: the first plugin, or else the second. -/
def createCompositeCall (plugin1 plugin2 : Option Zval) : Option Zval := plugin1.or plugin2

/-- The call credentials of a PHP thread, the invocations in progress with the innermost first,
and the cell whose lock the thread waits for. -/
structure Plugins where
  objects : List (CallOrigin × Option Zval) := []
  running : List PluginRef := []
  waiting : Option PluginRef := none

/-- What can happen. -/
inductive PluginAction where
  /-- `createFromPlugin`, with what PHP says about the value. -/
  | createFromPlugin (callback : Zval) (isCallable : Bool)
  /-- `createComposite`. -/
  | createComposite (creds1 creds2 : PluginRef)
  /-- A batch comes to `invoke_call_plugin`, with what PHP says about the stored value. -/
  | invoke (plugin : PluginRef) (isCallable : Bool)
  /-- The innermost callable returns or throws. -/
  | finish

namespace Plugins

/-- What the cell of an object holds. -/
def cell (s : Plugins) (plugin : PluginRef) : Option (Option Zval) :=
  s.objects[plugin.id]?.map Prod.snd

/-- Lock a cell, and go on. -/
def lock (s : Plugins) (plugin : PluginRef) (next : Plugins) : Plugins :=
  if plugin ∈ s.running then { s with waiting := some plugin } else next

/-- A new object. -/
def add (s : Plugins) (origin : CallOrigin) (plugin : Option Zval) : Plugins :=
  { s with objects := s.objects ++ [(origin, plugin)] }

/-- One step.  PHP can only use objects that exist. -/
def step (s : Plugins) (a : PluginAction) : Option Plugins :=
  if s.waiting.isSome then none
  else match a with
    | .createFromPlugin callback isCallable =>
        match GrpcPhp.createFromPlugin callback isCallable with
        | .ok plugin => some (s.add (.createFromPlugin callback) plugin)
        | .error _ => some s
    | .createComposite creds1 creds2 => (s.cell creds1).bind fun plugin1 ↦
        (s.cell creds2).map fun plugin2 ↦
          let made := s.add (.createComposite creds1 creds2) (createCompositeCall plugin1 plugin2)
          -- the second cell is locked only if the first is empty
          s.lock creds1 (if plugin1.isNone then s.lock creds2 made else made)
    | .invoke plugin isCallable => (s.cell plugin).map fun stored ↦
        s.lock plugin (if stored.isSome && isCallable then { s with running := plugin :: s.running }
          else s)
    | .finish => match s.running with
        | [] => none
        | _ :: rest => some { s with running := rest }

/-- The outcome of an invocation, where the callable does what `result` says. -/
def outcome (s : Plugins) (plugin : PluginRef) (isCallable : Bool) (result : PluginOutcome) :
    PluginOutcome :=
  match (s.cell plugin).bind id with
  | none => .notSet
  | some _ => if isCallable then result else .notCallable

end Plugins

/-! ## The callable -/

/-- Following the first arguments of `createComposite` from an object leads to the callable. -/
inductive Leftmost (objects : List (CallOrigin × Option Zval)) : PluginRef → Zval → Prop
  | /-- An object of `createFromPlugin`. -/
    plugin {p : PluginRef} {callback : Zval} {stored : Option Zval} :
      objects[p.id]? = some (.createFromPlugin callback, stored) → Leftmost objects p callback
  | /-- An object of `createComposite`. -/
    composite {p creds1 creds2 : PluginRef} {callback : Zval} {stored : Option Zval} :
      objects[p.id]? = some (.createComposite creds1 creds2, stored) →
        Leftmost objects creds1 callback → Leftmost objects p callback

/-- New objects change nothing about the old ones. -/
theorem Leftmost.append {objects : List (CallOrigin × Option Zval)} {p : PluginRef}
    {callback : Zval} (h : Leftmost objects p callback) (new : List (CallOrigin × Option Zval)) :
    Leftmost (objects ++ new) p callback := by
  induction h with
  | plugin hp => exact .plugin (getElem?_append_of_eq_some hp new)
  | composite hp _ ih => exact .composite (getElem?_append_of_eq_some hp new) ih

namespace Plugins

variable {s s' : Plugins} {a : PluginAction}

/-- The cells that an action locks, in order. -/
def locks (s : Plugins) : PluginAction → List PluginRef
  | .createComposite creds1 creds2 =>
      creds1 :: match s.cell creds1 with
        | some none => [creds2]
        | _ => []
  | .invoke plugin _ => [plugin]
  | .createFromPlugin _ _ | .finish => []

/-- The effect of each step. -/
inductive Steps (s : Plugins) : PluginAction → Plugins → Prop
  | created {callback : Zval} : Steps s (.createFromPlugin callback true)
      (s.add (.createFromPlugin callback) (some callback))
  | /-- The constructor raises. -/
    refused {callback : Zval} : Steps s (.createFromPlugin callback false) s
  | composed {creds1 creds2 : PluginRef} {plugin1 plugin2 : Option Zval}
      (h₁ : s.cell creds1 = some plugin1) (h₂ : s.cell creds2 = some plugin2) :
      Steps s (.createComposite creds1 creds2)
        (s.add (.createComposite creds1 creds2) (createCompositeCall plugin1 plugin2))
  | /-- A cell is locked already. -/
    waits {a : PluginAction} {p : PluginRef} (hl : p ∈ s.locks a) (hr : p ∈ s.running) :
      Steps s a { s with waiting := some p }
  | invoked {p : PluginRef} {callback : Zval} (h : s.cell p = some (some callback))
      (hr : p ∉ s.running) : Steps s (.invoke p true) { s with running := p :: s.running }
  | /-- The invocation fails before the callable is run. -/
    failed {p : PluginRef} {isCallable : Bool} : Steps s (.invoke p isCallable) s
  | finished {p : PluginRef} {rest : List PluginRef} (h : s.running = p :: rest) :
      Steps s .finish { s with running := rest }

theorem steps_of_step (h : s.step a = some s') : s.waiting = none ∧ s.Steps a s' := by
  unfold step at h
  split at h
  · cases h
  · next hw =>
    refine ⟨by simpa using hw, ?_⟩
    cases a with
    | createFromPlugin callback isCallable =>
        cases isCallable with
        | false =>
            obtain rfl := Option.some.inj h
            exact .refused
        | true =>
            obtain rfl := Option.some.inj h
            exact .created
    | createComposite creds1 creds2 =>
        obtain ⟨plugin1, h₁, h⟩ := Option.bind_eq_some_iff.mp h
        obtain ⟨plugin2, h₂, rfl⟩ := Option.map_eq_some_iff.mp h
        unfold lock
        split
        · next hr => exact .waits List.mem_cons_self hr
        · cases plugin1 with
          | some callback => exact .composed h₁ h₂
          | none =>
              rw [Option.isNone_none, if_pos rfl]
              split
              · next hr => exact .waits (by simp [locks, h₁]) hr
              · exact .composed h₁ h₂
    | invoke p isCallable =>
        obtain ⟨stored, hp, rfl⟩ := Option.map_eq_some_iff.mp h
        unfold lock
        split
        · next hr => exact .waits List.mem_cons_self hr
        · next hr =>
          cases stored with
          | none => exact .failed
          | some callback =>
              cases isCallable with
              | false => exact .failed
              | true => exact .invoked hp hr
    | finish =>
        dsimp only at h
        split at h
        · cases h
        · next hr =>
          obtain rfl := Option.some.inj h
          exact .finished hr

/-- What holds of the cells and of the invocations in progress. -/
structure Sane (s : Plugins) : Prop where
  filled : ∀ p stored, s.cell p = some stored →
    ∃ callback, stored = some callback ∧ Leftmost s.objects p callback
  nodup : s.running.Nodup
  known : ∀ p ∈ s.running, p.id < s.objects.length
  held : ∀ p, s.waiting = some p → p ∈ s.running

/-- A new object is as sane as its cell. -/
theorem Sane.add (h : s.Sane) {origin : CallOrigin} {callback : Zval}
    (hnew : ∀ p : PluginRef, p.id = s.objects.length →
      Leftmost (s.objects ++ [(origin, some callback)]) p callback) :
    (s.add origin (some callback)).Sane where
  filled := by
    intro p stored hp
    obtain ⟨⟨o, stored⟩, hget, rfl⟩ := Option.map_eq_some_iff.mp hp
    rcases getElem?_concat_eq_some hget with hold | ⟨hid, heq⟩
    · obtain ⟨callback, hstored, hleft⟩ := h.filled p stored (by simp [cell, hold])
      exact ⟨callback, hstored, hleft.append _⟩
    · cases heq
      exact ⟨callback, rfl, hnew p hid⟩
  nodup := h.nodup
  known p hp := by
    have := h.known p hp
    simp only [Plugins.add, List.length_append]
    omega
  held := h.held

theorem Sane.step (h : s.Sane) (hs : s.step a = some s') : s'.Sane := by
  obtain ⟨hw, hs⟩ := steps_of_step hs
  have last {p : PluginRef} {o : CallOrigin × Option Zval} (hp : p.id = s.objects.length) :
      (s.objects ++ [o])[p.id]? = some o := by simp [hp]
  cases hs with
  | @created callback =>
      exact h.add fun p hp ↦ .plugin (last hp)
  | @composed creds1 creds2 plugin1 plugin2 h₁ h₂ =>
      obtain ⟨callback, rfl, hleft⟩ := h.filled creds1 plugin1 h₁
      exact h.add fun p hp ↦ .composite (last hp) (hleft.append _)
  | refused | failed => exact h
  | @waits _ p hl hr =>
      exact ⟨h.filled, h.nodup, h.known, fun q hq ↦ by cases hq; exact hr⟩
  | @invoked p callback hp hr =>
      refine ⟨h.filled, List.nodup_cons.mpr ⟨hr, h.nodup⟩, ?_, fun q hq ↦ ?_⟩
      · refine List.forall_mem_cons.mpr ⟨?_, h.known⟩
        obtain ⟨o, hget, -⟩ := Option.map_eq_some_iff.mp hp
        exact (List.getElem?_eq_some_iff.mp hget).1
      · cases hw.symm.trans hq
  | finished hr =>
      have hsub := hr ▸ List.sublist_cons_self _ _
      refine ⟨h.filled, h.nodup.sublist hsub, fun p hp ↦ h.known p (hsub.subset hp), fun q hq ↦ ?_⟩
      cases hw.symm.trans hq

theorem sane_of_run {as : List PluginAction} (h : Run (pgraph step) {} as s) : s.Sane := by
  refine h.state_invariant ⟨?_, .nil, ?_, ?_⟩ fun _ _ _ hI hs ↦ hI.step hs
  · intro p stored hp
    simp [cell] at hp
  · intro p hp
    cases hp
  · intro p hp
    cases hp

/-- Different objects, all of which exist. -/
theorem Sane.depth_le (h : s.Sane) : s.running.length ≤ s.objects.length := by
  have hnodup : (s.running.map PluginRef.id).Nodup := by
    refine List.Nodup.map ?_ h.nodup
    rintro ⟨i⟩ ⟨j⟩ (rfl : i = j)
    rfl
  have hsub : s.running.map PluginRef.id ⊆ List.range s.objects.length := by
    intro i hi
    obtain ⟨p, hp, rfl⟩ := List.mem_map.mp hi
    exact List.mem_range.mpr (h.known p hp)
  have := (hnodup.subperm hsub).length_le
  rwa [List.length_map, List.length_range] at this

/-! ## Plugins that use older credentials only -/

/-- Inside a callable, only credentials older than its own are used. -/
def Older (s : Plugins) (a : PluginAction) : Prop :=
  ∀ p ∈ s.locks a, ∀ q ∈ s.running.head?, p.id < q.id

/-- The invocations in progress are of ever older credentials, and nothing is waited for. -/
structure Descending (s : Plugins) : Prop where
  descending : s.running.Pairwise fun p q ↦ p.id < q.id
  free : s.waiting = none

theorem Descending.step (h : s.Descending) (ho : s.Older a) (hs : s.step a = some s') :
    s'.Descending := by
  obtain ⟨hw, hs⟩ := steps_of_step hs
  cases hs with
  | created | composed | refused | failed => exact ⟨h.descending, h.free⟩
  | @waits _ p hl hr =>
      -- the cell would be older than the innermost one, which is the oldest
      cases hrun : s.running with
      | nil =>
          rw [hrun] at hr
          cases hr
      | cons q rest =>
          have hlt := ho p hl q (by rw [hrun]; rfl)
          have hdesc := h.descending
          rw [hrun, List.pairwise_cons] at hdesc
          rw [hrun] at hr
          rcases List.mem_cons.mp hr with rfl | hmem
          · exact absurd hlt (Nat.lt_irrefl _)
          · exact absurd (hdesc.1 p hmem) (Nat.lt_asymm hlt)
  | @invoked p callback hp hr =>
      refine ⟨?_, h.free⟩
      cases hrun : s.running with
      | nil => exact List.pairwise_singleton _ _
      | cons q rest =>
          have hlt := ho p List.mem_cons_self q (by rw [hrun]; rfl)
          have hdesc := hrun ▸ h.descending
          refine List.pairwise_cons.mpr ⟨List.forall_mem_cons.mpr ⟨hlt, fun r hr ↦ ?_⟩, hdesc⟩
          exact hlt.trans ((List.pairwise_cons.mp hdesc).1 r hr)
  | finished hr =>
      exact ⟨h.descending.sublist (hr ▸ List.sublist_cons_self _ _), h.free⟩

end Plugins

/-- **Plugins.**  In every run, however calls are nested in callables: every object holds the
callable that the first arguments of `createComposite` lead to, so an invocation never finds
its cell empty, and the second arguments are never used.  The invocations in progress are of
different objects, so they are nested no deeper than there are objects.  A thread that waits for
a cell waits for itself, and goes on in no way.  It never comes to that if callables use older
credentials than their own only. -/
theorem plugins_of_run {as : List PluginAction} {s : Plugins}
    (h : Run (pgraph Plugins.step) {} as s) :
    (∀ p : PluginRef, p.id < s.objects.length → ∃ callback, Leftmost s.objects p callback
        ∧ s.cell p = some (some callback) ∧ ∀ isCallable result,
          s.outcome p isCallable result = if isCallable then result else .notCallable)
      ∧ (s.running.Nodup ∧ s.running.length ≤ s.objects.length)
      ∧ (∀ p, s.waiting = some p → p ∈ s.running ∧ ∀ a, s.step a = none)
      ∧ (Run (Such (pgraph Plugins.step) Plugins.Older) {} as s → s.waiting = none) := by
  have hsane := Plugins.sane_of_run h
  refine ⟨fun p hp ↦ ?_, ⟨hsane.nodup, hsane.depth_le⟩, fun p hp ↦ ⟨hsane.held p hp, fun a ↦ ?_⟩,
    fun h' ↦ ?_⟩
  · obtain ⟨o, ho⟩ : ∃ o, s.objects[p.id]? = some o := ⟨_, List.getElem?_eq_getElem hp⟩
    have hcell : s.cell p = some o.2 := by simp [Plugins.cell, ho]
    obtain ⟨callback, hstored, hleft⟩ := hsane.filled p o.2 hcell
    rw [hstored] at hcell
    exact ⟨callback, hleft, hcell, fun _ _ ↦ by simp [Plugins.outcome, hcell]⟩
  · simp [Plugins.step, hp]
  · exact (h'.state_invariant (I := Plugins.Descending) ⟨.nil, rfl⟩
      fun _ _ _ hI hs ↦ hI.step hs.1 hs.2).free

/-- A plugin whose callable makes a call with the same credentials: the thread waits for
itself. -/
theorem plugins_of_run_reentrant :
    let p : PluginRef := ⟨0⟩
    ∃ s, Run (pgraph Plugins.step) {}
        [.createFromPlugin .object true, .createComposite p p, .invoke p true, .invoke p true] s
      ∧ s.cell ⟨1⟩ = some (some .object) ∧ s.waiting = some p ∧ p ∈ s.running
      ∧ ∀ a, s.step a = none :=
  have hrun := Run.of_foldlM rfl
  ⟨_, hrun, rfl, rfl, (plugins_of_run hrun).2.2.1 _ rfl⟩

end GrpcPhp
