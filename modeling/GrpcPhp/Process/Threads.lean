import GrpcPhp.Channel.Extension

/-!
# Several PHP threads

With a thread-safe PHP several threads use the extension at once.  The objects of a thread and
its channel registry belong to the thread.  The threads share the statics of `credentials.rs`: the
counter of the ids, and the default roots under their lock.

A constructor of credentials uses the two one after the other: it reads the roots, and takes the
id when the object is made.  So the model of a single thread, where credentials are made in one
step, is not the process seen through one thread: between the two halves another thread may set
the roots and make credentials of its own.  But a thread cannot tell.  Whatever the others do in
between can be put before or after the step: making credentials before, setting the roots
after (`threads_of_run`).
-/

namespace GrpcPhp

open Lib Php

/-! ## The process -/

/-- A PHP thread: what it has, and the default roots it has read if it is making credentials. -/
structure PhpThread where
  own : Extension := {}
  rootsRead : Option (Option String) := none

/-- What a thread sees: its own objects, the counter, and the roots, as it has read them. -/
def PhpThread.view (th : PhpThread) (statics : Statics) : Extension :=
  { th.own with
    heap.statics :=
      { next := statics.next
        defaultRootsPem := th.rootsRead.getD statics.defaultRootsPem } }

/-- The threads and what they share.  The statics of a thread's own heap are not read. -/
structure Threads where
  statics : Statics := {}
  threads : ℕ → PhpThread := fun _ ↦ {}

/-- What a thread does. -/
inductive ThreadStep where
  /-- Credentials are to be made: the default roots are read. -/
  | read
  /-- The id is taken, and the credentials are made. -/
  | finish (origin : Origin)
  /-- Anything else. -/
  | act (a : ThreadAction)

/-- The actions that are not made of two steps, and are the thread's own. -/
def ThreadAction.isAtomic : ThreadAction → Bool
  | .credentials (.create _) | .credentials .createElsewhere => false
  | _ => true

/-- What other threads may do to the statics. -/
def CredentialsAction.isOutside : CredentialsAction → Bool
  | .create _ => false
  | .createElsewhere | .setDefaultRootsPem _ | .invalidateDefaultRootsPem => true

/-- To set the default roots to what they are. -/
def CredentialsAction.setRoots : Option String → CredentialsAction
  | some pem => .setDefaultRootsPem pem
  | none => .invalidateDefaultRootsPem

namespace Threads

/-- What a thread sees. -/
def view (p : Threads) (t : ℕ) : Extension := (p.threads t).view p.statics

/-- The id of the credentials with a given number on a given thread. -/
def idAt (p : Threads) (x : ℕ × ℕ) : Option ℕ :=
  ((p.threads x.1).own.heap.objects[x.2]?).map fun o ↦ o.2.id

/-- The action of a thread that a step completes. -/
def completed (t : ℕ) (l : ℕ × ThreadStep) : Option ThreadAction :=
  if l.1 = t then match l.2 with
    | .read => none
    | .finish origin => some (.credentials (.create origin))
    | .act a => some a
  else none

variable (T : Tonic) (X : Transport)

/-- One step of one thread. -/
def step (p : Threads) (l : ℕ × ThreadStep) : Option Threads :=
  let thread := p.threads l.1
  match l.2, thread.rootsRead with
  | .read, none => some { p with
      threads := Function.update p.threads l.1
        { thread with rootsRead := some p.statics.defaultRootsPem } }
  | .finish origin, some _ =>
      ((p.view l.1).step T X (.credentials (.create origin))).map fun e ↦
        { statics := { p.statics with next := e.heap.statics.next }
          threads := Function.update p.threads l.1 { own := e } }
  | .act a, none =>
      if a.isAtomic then ((p.view l.1).step T X a).map fun e ↦
        { statics := e.heap.statics, threads := Function.update p.threads l.1 { own := e } }
      else none
  | _, _ => none

/-! ## What a step does -/

/-- What a thread has when it has made credentials. -/
def made (p : Threads) (t : ℕ) (origin : Origin) (c : GrpcChannelCredentials) : Extension :=
  { p.view t with
    heap.statics.next := p.statics.next + 1
    heap.objects := (p.view t).heap.objects ++ [(origin, c)] }

/-- The effect of each step. -/
inductive Moves (T : Tonic) (X : Transport) (p : Threads) (t : ℕ) : ThreadStep → Threads → Prop
  | /-- The roots are read. -/
    reads : (p.threads t).rootsRead = none → Moves T X p t .read { p with
      threads := Function.update p.threads t
        { p.threads t with rootsRead := some p.statics.defaultRootsPem } }
  | /-- Credentials are made, with the roots that were read and the next id. -/
    finishes {origin : Origin} {c : GrpcChannelCredentials} :
      (p.view t).step T X (.credentials (.create origin)) = some (p.made t origin c) →
      c.id = p.statics.next % 2 ^ 64 →
      Moves T X p t (.finish origin)
        { statics := { p.statics with next := p.statics.next + 1 }
          threads := Function.update p.threads t { own := p.made t origin c } }
  | /-- The default roots are set. -/
    sets {roots : Option String} : (p.threads t).rootsRead = none →
      Moves T X p t (.act (.credentials (.setRoots roots)))
        { statics := { p.statics with defaultRootsPem := roots }
          threads := Function.update p.threads t
            { own := { p.view t with heap.statics.defaultRootsPem := roots } } }
  | /-- Anything else leaves the statics and the credentials alone. -/
    acts {a : ThreadAction} {e : Extension} : (p.threads t).rootsRead = none →
      (p.view t).step T X a = some e → e.heap = (p.view t).heap →
      Moves T X p t (.act a)
        { statics := p.statics, threads := Function.update p.threads t { own := e } }

variable {T X} {p p' : Threads} {t : ℕ}

/-- A thread that has not read the roots sees those of the process. -/
theorem view_statics (h : (p.threads t).rootsRead = none) :
    (p.view t).heap.statics = p.statics := by
  rw [view, PhpThread.view, h]
  rfl

theorem moves_of_step {l : ℕ × ThreadStep} (h : p.step T X l = some p') :
    p.Moves T X l.1 l.2 p' := by
  obtain ⟨t, l⟩ := l
  unfold step at h
  dsimp only at h
  split at h
  · next hroots =>
    obtain rfl := Option.some.inj h
    exact .reads hroots
  · next origin _ _ =>
    obtain ⟨e, he, rfl⟩ := Option.map_eq_some_iff.mp h
    obtain ⟨heap, hheap, rfl⟩ := Option.map_eq_some_iff.mp he
    obtain ⟨⟨c, s⟩, hmake, rfl⟩ := Option.map_eq_some_iff.mp hheap
    obtain ⟨hid, rfl⟩ := CredentialsHeap.make_id hmake
    exact .finishes he hid
  · next a hroots =>
    split at h
    · next ha =>
      obtain ⟨e, he, rfl⟩ := Option.map_eq_some_iff.mp h
      have hview := view_statics hroots
      have keeps (hheap : e.heap = (p.view t).heap) : p.Moves T X t (.act a)
          { statics := e.heap.statics, threads := Function.update p.threads t { own := e } } := by
        rw [hheap, hview]
        exact .acts hroots he hheap
      cases Extension.steps_of_step he with
      | @credentials a heap hheap =>
          cases a with
          | create | createElsewhere => cases ha
          | setDefaultRootsPem pem =>
              obtain rfl := Option.some.inj hheap
              exact @Moves.sets T X p t (some pem) hroots
          | invalidateDefaultRootsPem =>
              obtain rfl := Option.some.inj hheap
              exact @Moves.sets T X p t none hroots
      | _ => exact keeps rfl
    · cases h
  · cases h

/-! ## The view of a thread -/

/-- Actions of a thread, and of the others on the statics. -/
abbrev Acts := List (ThreadAction ⊕ CredentialsAction)

/-- A run of the model of one thread that makes the given actions of its own, with actions of
other threads in between. -/
def Explains (T : Tonic) (X : Transport) (s : Extension) (own : List ThreadAction)
    (s' : Extension) : Prop :=
  ∃ acts : Acts, Run (pgraph (Extension.step T X)) s (acts.map (Sum.elim id .credentials)) s'
    ∧ acts.filterMap Sum.getLeft? = own ∧ ∀ a, .inr a ∈ acts → a.isOutside = true

namespace Explains

variable {s s' s'' : Extension}

/-- Nothing happens. -/
theorem refl (s : Extension) : Explains T X s [] s :=
  ⟨[], .nil, rfl, fun _ h ↦ absurd h List.not_mem_nil⟩

/-- One after the other. -/
theorem trans {own own' : List ThreadAction} (h : Explains T X s own s')
    (h' : Explains T X s' own' s'') : Explains T X s (own ++ own') s'' := by
  obtain ⟨acts, hrun, hown, hout⟩ := h
  obtain ⟨acts', hrun', hown', hout'⟩ := h'
  refine ⟨acts ++ acts', ?_, by rw [List.filterMap_append, hown, hown'], fun a ha ↦ ?_⟩
  · rw [List.map_append]
    exact hrun.append hrun'
  · rcases List.mem_append.mp ha with ha | ha
    · exact hout a ha
    · exact hout' a ha

/-- The thread does something. -/
theorem own {a : ThreadAction} (h : s.step T X a = some s') : Explains T X s [a] s' :=
  ⟨[.inl a], .single h, rfl, fun _ ha ↦ by simp at ha⟩

/-- Another thread does something. -/
theorem outside {a : CredentialsAction} (h : s.step T X (.credentials a) = some s')
    (ha : a.isOutside = true) : Explains T X s [] s' :=
  ⟨[.inr a], .single h, rfl, fun _ h ↦ by simp at h; rwa [h]⟩

/-- The roots are set by another thread. -/
theorem roots (s : Extension) (roots : Option String) :
    Explains T X s [] { s with heap.statics.defaultRootsPem := roots } := by
  have hset : s.step T X (.credentials (.setRoots roots))
      = some { s with heap.statics.defaultRootsPem := roots } := by cases roots <;> rfl
  exact outside hset (by cases roots <;> rfl)

end Explains

/-- What the thread that made a step sees of it. -/
theorem view_update_self (statics : Statics) (th : PhpThread) :
    view ⟨statics, Function.update p.threads t th⟩ t = th.view statics := by
  simp only [view, Function.update_self]

/-- What another thread sees of it. -/
theorem view_update_of_ne {u : ℕ} (hu : u ≠ t) (statics : Statics) (th : PhpThread) :
    view ⟨statics, Function.update p.threads t th⟩ u = (p.threads u).view statics := by
  simp only [view, Function.update_of_ne hu]

/-- A step, for the thread that makes it. -/
theorem Moves.explains_self {l : ThreadStep} (h : p.Moves T X t l p') :
    Explains T X (p.view t) (completed t (t, l)).toList (p'.view t) := by
  rw [completed, if_pos rfl]
  cases h with
  | reads hroots =>
      have hsame : p.view t
          = { p.threads t with rootsRead := some p.statics.defaultRootsPem }.view p.statics := by
        rw [view, PhpThread.view, hroots]
        rfl
      rw [view_update_self, ← hsame]
      exact .refl _
  | @finishes origin c hstep =>
      -- the roots are set after the credentials were made, if they were set meanwhile
      rw [view_update_self]
      exact (Explains.own hstep).trans (.roots _ p.statics.defaultRootsPem)
  | @sets roots hroots =>
      rw [view_update_self]
      refine .own ?_
      cases roots <;> rfl
  | @acts a e hroots hstep hheap =>
      have hstatics : e.heap.statics = p.statics := by rw [hheap, view_statics hroots]
      rw [view_update_self, ← hstatics]
      exact .own hstep

/-- A step, for another thread. -/
theorem Moves.explains_other {u : ℕ} {l : ThreadStep} (h : p.Moves T X t l p') (hu : u ≠ t) :
    Explains T X (p.view u) (completed u (t, l)).toList (p'.view u) := by
  rw [completed, if_neg (Ne.symm hu)]
  cases h with
  | reads | acts =>
      rw [view_update_of_ne hu]
      exact .refl _
  | finishes =>
      rw [view_update_of_ne hu]
      have hstep : (p.view u).step T X (.credentials .createElsewhere)
          = some ((p.threads u).view { p.statics with next := p.statics.next + 1 }) := rfl
      exact .outside hstep rfl
  | @sets roots =>
      rw [view_update_of_ne hu, view]
      cases hread : (p.threads u).rootsRead with
      | none =>
          have hset : (p.threads u).view { p.statics with defaultRootsPem := roots }
              = { (p.threads u).view p.statics with heap.statics.defaultRootsPem := roots } := by
            rw [PhpThread.view, PhpThread.view, hread]
            rfl
          rw [hset]
          exact .roots _ roots
      | some read =>
          -- the thread has read other roots, and goes on with them
          have hsame : (p.threads u).view { p.statics with defaultRootsPem := roots }
              = (p.threads u).view p.statics := by
            rw [PhpThread.view, PhpThread.view, hread]
            rfl
          rw [hsame]
          exact .refl _

/-! ## Ids -/

/-- Every id that was taken is below the counter, and belongs to one object. -/
structure Apart (p : Threads) : Prop where
  below : ∀ x n, p.idAt x = some n → n < p.statics.next
  apart : ∀ x y n, p.idAt x = some n → p.idAt y = some n → x = y

/-- The ids after a step of a thread. -/
theorem idAt_update (statics : Statics) (th : PhpThread) (x : ℕ × ℕ) :
    idAt ⟨statics, Function.update p.threads t th⟩ x
      = if x.1 = t then th.own.heap.objects[x.2]?.map fun o ↦ o.2.id else p.idAt x := by
  by_cases hx : x.1 = t
  · simp only [idAt, hx, Function.update_self, if_true]
  · simp only [idAt, Function.update_of_ne hx, if_neg hx]

/-- What a step does to the ids: none is taken, or the next one is. -/
theorem Moves.ids {l : ThreadStep} (h : p.Moves T X t l p') :
    (p'.idAt = p.idAt ∧ p'.statics.next = p.statics.next)
      ∨ ∃ x, p'.idAt = Function.update p.idAt x (some (p.statics.next % 2 ^ 64))
        ∧ p'.statics.next = p.statics.next + 1 := by
  have same {statics : Statics} {th : PhpThread}
      (hobj : th.own.heap.objects = (p.threads t).own.heap.objects) :
      idAt ⟨statics, Function.update p.threads t th⟩ = p.idAt := by
    funext x
    rw [idAt_update, hobj]
    split
    · next hx => rw [idAt, hx]
    · rfl
  cases h with
  | reads | sets => exact .inl ⟨same rfl, rfl⟩
  | acts _ _ hheap => exact .inl ⟨same (by rw [hheap]; rfl), rfl⟩
  | @finishes origin c hstep hid =>
      refine .inr ⟨(t, (p.threads t).own.heap.objects.length), funext fun ⟨u, i⟩ ↦ ?_, rfl⟩
      have hobj : (p.made t origin c).heap.objects
          = (p.threads t).own.heap.objects ++ [(origin, c)] := rfl
      rw [idAt_update, hobj]
      by_cases hu : u = t
      · subst hu
        by_cases hi : i = (p.threads u).own.heap.objects.length
        · subst hi
          simp [hid]
        · rw [if_pos rfl, Function.update_of_ne (by simpa using hi), idAt]
          rcases Nat.lt_or_gt_of_ne hi with hlt | hgt
          · rw [List.getElem?_append_left hlt]
          · rw [List.getElem?_eq_none (by rw [List.length_append]; exact hgt),
              List.getElem?_eq_none hgt.le]
      · rw [if_neg hu, Function.update_of_ne (fun h ↦ hu (congrArg Prod.fst h))]

/-- A step keeps the ids apart, unless the counter has wrapped around. -/
theorem Apart.step (hp : p.Apart) {l : ThreadStep} (h : p.Moves T X t l p')
    (hnext : p'.statics.next ≤ 2 ^ 64) : p'.Apart := by
  rcases h.ids with ⟨hids, heq⟩ | ⟨x, hids, heq⟩
  · exact ⟨by rw [hids, heq]; exact hp.below, by rw [hids]; exact hp.apart⟩
  · rw [Nat.mod_eq_of_lt (by omega)] at hids
    have hcases : ∀ y n, p'.idAt y = some n → y = x ∧ n = p.statics.next ∨ p.idAt y = some n := by
      intro y n hy
      rw [hids] at hy
      by_cases hyx : y = x
      · rw [hyx, Function.update_self] at hy
        exact .inl ⟨hyx, (Option.some.inj hy).symm⟩
      · rw [Function.update_of_ne hyx] at hy
        exact .inr hy
    constructor
    · intro y n hy
      rcases hcases y n hy with ⟨-, rfl⟩ | hold
      · omega
      · have := hp.below y n hold
        omega
    · intro y z n hy hz
      rcases hcases y n hy with ⟨rfl, rfl⟩ | hold
      · rcases hcases z _ hz with ⟨rfl, -⟩ | hold'
        · rfl
        · exact absurd (hp.below z _ hold') (Nat.lt_irrefl _)
      · rcases hcases z n hz with ⟨rfl, rfl⟩ | hold'
        · exact absurd (hp.below y _ hold) (Nat.lt_irrefl _)
        · exact hp.apart y z n hold hold'

end Threads

/-- **Threads do not see each other.**  In every interleaving of the threads of a process, what
a thread sees is reached by a run of the model of one thread: with the actions of its own that it
has completed, in their order, and in between only credentials made and roots set elsewhere.  And
as long as fewer than 2^64 credentials were made in the process, no two of them have the same
id, on whatever threads they are. -/
theorem threads_of_run {T : Tonic} {X : Transport} {ls : List (ℕ × ThreadStep)} {p : Threads}
    (h : Run (pgraph (Threads.step T X)) {} ls p) :
    (∀ t, Threads.Explains T X {} (ls.filterMap (Threads.completed t)) (p.view t))
      ∧ (p.statics.next ≤ 2 ^ 64 →
        ∀ x y n, p.idAt x = some n → p.idAt y = some n → x = y) := by
  constructor
  · intro t
    refine h.invariant (I := fun ls p ↦
      Threads.Explains T X {} (ls.filterMap (Threads.completed t)) (p.view t)) (.refl _) ?_
    intro ls p l p' hI hs
    have hmove := Threads.moves_of_step hs
    have hlast : [l].filterMap (Threads.completed t) = (Threads.completed t l).toList := by
      cases hl : Threads.completed t l <;> simp [hl]
    rw [List.filterMap_append, hlast]
    refine hI.trans ?_
    by_cases ht : t = l.1
    · subst ht
      exact hmove.explains_self
    · exact hmove.explains_other ht
  · have hapart : p.statics.next ≤ 2 ^ 64 → p.Apart := by
      refine h.state_invariant (I := fun p ↦ p.statics.next ≤ 2 ^ 64 → p.Apart) ?_ ?_
      · exact fun _ ↦ ⟨fun x n hx ↦ by simp [Threads.idAt] at hx,
          fun x y n hx ↦ by simp [Threads.idAt] at hx⟩
      · intro p l p' hI hs hnext
        have hmove := Threads.moves_of_step hs
        refine (hI ?_).step hmove hnext
        rcases hmove.ids with ⟨-, heq⟩ | ⟨-, -, heq⟩ <;> omega
    exact fun hnext ↦ (hapart hnext).apart

/-- Two threads make credentials at once, and one of them sets the roots meanwhile: the thread
that has read the old roots gets the second id. -/
theorem threads_of_run_racing :
    let ls : List (ℕ × ThreadStep) :=
      [(0, .read), (1, .act (.credentials (.setDefaultRootsPem "B"))),
      (1, .read), (1, .finish .createDefault), (0, .finish .createDefault)]
    ∃ p, Run (pgraph (Threads.step Tonic.ascii Transport.plain)) {} ls p
      ∧ (p.idAt (0, 0) = some 2 ∧ p.idAt (1, 0) = some 1)
      ∧ ((p.view 0).heap.get? 0).map (·.inner.tlsConfig.caCertificate) = some none
      ∧ ((p.view 1).heap.get? 0).map (·.inner.tlsConfig.caCertificate) = some (some "B")
      ∧ Threads.Explains Tonic.ascii Transport.plain {} [.credentials (.create .createDefault)]
        (p.view 0) :=
  have hrun := Run.of_foldlM rfl
  ⟨_, hrun, ⟨rfl, rfl⟩, rfl, rfl, (threads_of_run hrun).1 0⟩

end GrpcPhp
