import GrpcPhp.Call.Alike
import GrpcPhp.Channel.Isolation

/-!
# Each call on its own

The calls of a thread share channels, transports and the registry, and yet each of them is
the call of `GrpcPhp/Call`: what it has become depends on its own methods and on the closing
of the channel object it was made from, in the order in which they happened, and on nothing
else that happens on the thread.  So every result about the runs of one call is a result
about every call of every run of the thread.

The one thing that calls of a transport share is its connectivity state, which they write and
do not read.
-/

namespace GrpcPhp

open Lib Php

variable {T : Tonic} {X : Transport}

/-- What an action on the thread is to the call `i`, made from the channel object `origin`. -/
def ThreadAction.onto (i origin : ℕ) : ThreadAction → Option Action
  | .onCall j a => if j = i then some a else none
  | .close k => if k = origin then some .closeChannel else none
  | .credentials _ | .constructChannel _ _ _ | .constructCall _ _ _ | .onTransport _ _ => none

/-! ## The flag of the channel -/

/-- The methods of a call do not close its channel. -/
theorem step_channelClosed (w : World) {a : Action} (h : a ≠ .closeChannel) :
    (step T w a).call.channelClosed = w.call.channelClosed := by
  have settle (ops : ZendHashTable) (p : Except PhpException BatchResult × World) :
      (World.settle ops p).call = p.2.call := by
    obtain ⟨r, v⟩ := p
    cases r <;> rfl
  cases a with
  | startBatch env ops =>
      obtain ⟨r, w', hb, heq⟩ := step_startBatch_cases T env ops w
      have dispatched {b : BatchOps} {v : World} {r : Except PhpException BatchResult}
          (hd : Dispatched T env b (w.mapCall (·.accept b)) r v) :
          v.call.channelClosed = w.call.channelClosed :=
        show v.call.core.channelClosed = (w.mapCall (·.accept b)).call.core.channelClosed from
          congrArg _ hd.updates.core_eq
      rw [heq, settle]
      cases hb with
      | rejected | empty => rfl
      | raised _ hd => exact dispatched hd
      | @returned _ _ v _ hd =>
          show v.call.channelClosed = w.call.channelClosed
          exact dispatched hd
  | setCredentials | cancel => rfl
  | closeChannel => exact absurd rfl h

namespace Extension

variable {s s' : Extension} {a : ThreadAction} {as : List ThreadAction} {i k : ℕ} {c : CallObject}

/-- An object is closed if it was, or if this is what the step does. -/
theorem isClosed_step (h : s.step T X a = some s') (hk : k < s.channels.length) :
    s'.isClosed k = true ↔ s.isClosed k = true ∨ a = .close k := by
  rcases step_channels h with ⟨o, hch, -, -, hne⟩ | ⟨j, o, rfl, hj, hch⟩ | ⟨hch, hne⟩
  · simp [isClosed, hch, List.getElem?_append_left hk, hne k]
  · by_cases hjk : j = k
    · subst hjk
      simp [isClosed, hch, List.getElem?_set_self hk, GrpcChannel.close]
    · simp [isClosed, hch, List.getElem?_set_ne hjk, hjk]
  · simp [isClosed, hch, hne k]

/-! ## What a step does to the calls -/

/-- What a step does to the calls: one is constructed, or a method of one is called, or they
stay. -/
theorem step_calls (h : s.step T X a = some s') :
    (∃ k method d o inner, a = .constructCall k method d ∧ s.channels[k]? = some o
        ∧ o.object.inner = some inner ∧ s'.calls = s.calls ++
          [{ call := { method, deadlineUsec := d, callPlugin := inner.callPlugin }
             origin := k, shared := inner.shared }])
      ∨ (∃ i b c, a = .onCall i b ∧ b ≠ .closeChannel ∧ s.calls[i]? = some c
        ∧ s'.calls = s.calls.set i { c with
            call := (GrpcPhp.step T (s.world c) b).call
            log := (GrpcPhp.step T (s.world c) b).log })
      ∨ s'.calls = s.calls ∧ ∀ i b, a ≠ .onCall i b := by
  cases steps_of_step h with
  | called ho hinner => exact .inl ⟨_, _, _, _, _, rfl, ho, hinner, rfl⟩
  | @onCall i b c hc =>
      refine .inr (.inl ⟨i, b, c, rfl, fun hb ↦ ?_, hc, rfl⟩)
      subst hb
      cases h
  | _ => exact .inr (.inr ⟨rfl, fun _ _ ↦ nofun⟩)

/-- The call `i` is in the state its own actions have led to. -/
def Own (T : Tonic) (X : Transport) (as : List ThreadAction) (s : Extension) (i : ℕ)
    (c : CallObject) : Prop :=
  ∃ method d pre post s₁ e, as = pre ++ .constructCall c.origin method d :: post
    ∧ Run (pgraph (Extension.step T X)) {} pre s₁ ∧ s₁.calls.length = i
    ∧ s.constructions[c.origin]? = some e
    ∧ ((post.filterMap (ThreadAction.onto i c.origin)).foldl (GrpcPhp.step T)
        (World.fresh method d (e.created.inner.bind ChannelInner.callPlugin) .idle)).Alike
          (s.world c)

/-- An action that is not the call's own changes nothing for it, and one that is does to it
what it does to a single call. -/
theorem Own.step (h : Own T X as s i c) (hs : s.step T X a = some s') {c' : CallObject}
    (horigin : c'.origin = c.origin)
    (hw : ((a.onto i c.origin).elim (s.world c) (GrpcPhp.step T (s.world c))).Alike (s'.world c')) :
    Own T X (as ++ [a]) s' i c' := by
  obtain ⟨method, d, pre, post, s₁, e, has, hpre, hlen, he, halike⟩ := h
  refine ⟨method, d, pre, post ++ [a], s₁, e, ?_, hpre, hlen, ?_, ?_⟩
  · rw [has, horigin, List.append_assoc, List.cons_append]
  · rw [horigin]
    exact step_constructions hs he
  · rw [horigin, List.filterMap_append, List.foldl_append]
    cases ha : a.onto i c.origin with
    | none =>
        rw [ha] at hw
        simpa [ha] using halike.trans hw
    | some b =>
        rw [ha] at hw
        simpa [ha] using (halike.step b).trans hw

/-- The channel object of the call exists. -/
theorem Own.origin_lt (h : Own T X as s i c) : c.origin < s.channels.length := by
  obtain ⟨method, d, pre, post, s₁, e, has, hpre, hlen, he, halike⟩ := h
  simpa [constructions] using (List.getElem?_eq_some_iff.mp he).1

/-- What a call sees, from one state to the next, of a step that is not its own. -/
theorem world_alike (h : s'.isClosed c.origin = s.isClosed c.origin) :
    (s.world c).Alike (s'.world c) := by
  refine ⟨?_, rfl⟩
  simp only [world, h]

theorem isClosed_eq (h : s.step T X a = some s') (hk : k < s.channels.length)
    (hne : a ≠ .close k) : s'.isClosed k = s.isClosed k :=
  Bool.eq_iff_iff.mpr ((isClosed_step h hk).trans (or_iff_left hne))

/-- A step on a call that the step leaves alone. -/
theorem Own.other (h : Own T X as s i c) (hs : s.step T X a = some s')
    (hne : ∀ b, a ≠ .onCall i b) : Own T X (as ++ [a]) s' i c := by
  have hk := h.origin_lt
  refine h.step hs rfl ?_
  by_cases hclose : a = .close c.origin
  · subst hclose
    have hclosed : s'.isClosed c.origin = true := (isClosed_step hs hk).mpr (.inr rfl)
    have honto : ThreadAction.onto i c.origin (.close c.origin) = some .closeChannel := if_pos rfl
    rw [honto]
    refine ⟨?_, rfl⟩
    simp only [Option.elim_some, GrpcPhp.step, world, World.mapCall, hclosed]
  · have honto : a.onto i c.origin = none := by
      cases a with
      | onCall j b => exact if_neg fun (hj : j = i) ↦ hne b (hj ▸ rfl)
      | close k => exact if_neg fun (hk : k = c.origin) ↦ hclose (hk ▸ rfl)
      | _ => rfl
    rw [honto]
    exact world_alike (isClosed_eq hs hk hclose)

/-- A method of the call. -/
theorem Own.method (h : Own T X as s i c) {b : Action} (hs : s.step T X (.onCall i b) = some s')
    (hb : b ≠ .closeChannel) :
    Own T X (as ++ [.onCall i b]) s' i { c with
      call := (GrpcPhp.step T (s.world c) b).call
      log := (GrpcPhp.step T (s.world c) b).log } := by
  have hk := h.origin_lt
  refine h.step hs rfl ?_
  have honto : ThreadAction.onto i c.origin (.onCall i b) = some b := if_pos rfl
  have hflag : (GrpcPhp.step T (s.world c) b).call.channelClosed = s'.isClosed c.origin :=
    (step_channelClosed (s.world c) hb).trans (isClosed_eq hs hk nofun).symm
  rw [honto]
  refine ⟨?_, rfl⟩
  simp only [Option.elim_some, world, ← hflag]

/-- A call that has just been constructed. -/
theorem Own.constructed (hrun : Run (pgraph (Extension.step T X)) {} as s) {method : String}
    {d : I64}
    {o : ChannelObject} {inner : ChannelInner}
    (hs : s.step T X (.constructCall k method d) = some s') (ho : s.channels[k]? = some o)
    (hinner : o.object.inner = some inner) :
    Own T X (as ++ [.constructCall k method d]) s' s.calls.length
      { call := { method, deadlineUsec := d, callPlugin := inner.callPlugin }
        origin := k, shared := inner.shared } := by
  have ht := tracked_of_run hrun
  -- a closed object holds no transport, so this one is as it was created
  have hopen : .close k ∉ as := fun hk ↦ by
    rw [ht.closed k o ho hk] at hinner
    cases hinner
  have hclosed : s'.isClosed k = false := by
    rw [isClosed_eq hs (List.getElem?_eq_some_iff.mp ho).1 nofun, Bool.eq_false_iff]
    exact fun hc ↦ hopen ((ht.isClosed_iff k).mp hc)
  have he : s.constructions[k]? = some o.toConstruction := by simp [constructions, ho]
  refine ⟨method, d, as, [], s, o.toConstruction, rfl, hrun, rfl, step_constructions hs he, ?_⟩
  have hcreated : o.created.inner = some inner := by rw [← ht.unclosed k o ho hopen, hinner]
  refine ⟨?_, rfl⟩
  simp only [List.filterMap_nil, List.foldl_nil, World.fresh, world, hcreated, hclosed,
    Option.bind_some]

theorem own_of_run (h : Run (pgraph (Extension.step T X)) {} as s) :
    ∀ i c, s.calls[i]? = some c → Own T X as s i c := by
  refine h.invariant_of_run (I := fun as s ↦ ∀ i c, s.calls[i]? = some c → Own T X as s i c)
    (fun i c hc ↦ by simp at hc) fun as s a s' hrun ih hs ↦ ?_
  intro i c hc
  rcases step_calls hs with ⟨k, method, d, o, inner, rfl, ho, hinner, hcalls⟩
    | ⟨j, b, c₀, rfl, hb, hj, hcalls⟩ | ⟨hcalls, hne⟩
  · rw [hcalls] at hc
    rcases getElem?_concat_eq_some hc with hc | ⟨rfl, rfl⟩
    · exact (ih i c hc).other hs fun _ ↦ nofun
    · exact .constructed hrun hs ho hinner
  · rw [hcalls] at hc
    by_cases hij : j = i
    · subst hij
      rw [List.getElem?_set_self (List.getElem?_eq_some_iff.mp hj).1] at hc
      cases hc
      exact (ih j c₀ hj).method hs hb
    · rw [List.getElem?_set_ne hij] at hc
      exact (ih i c hc).other hs fun b' heq ↦ hij (by cases heq; rfl)
  · exact (ih i c (hcalls ▸ hc)).other hs (hne i)

end Extension

/-- **Every call of a thread is a call on its own.**  Whatever else happens on the thread, to
other calls, to other channels, to the registry, the credentials or the transports, a call has
become what its own methods, and the closing of its own channel object, make of a fresh call
with its method, its deadline and the plugin its channel was created with: the same fields and
the same log. -/
theorem call_of_run {T : Tonic} {X : Transport} {as : List ThreadAction} {s : Extension}
    (h : Run (pgraph (Extension.step T X)) {} as s) {i : ℕ} {c : CallObject}
    (hc : s.calls[i]? = some c) :
    ∃ method d pre post s₁ e w, as = pre ++ .constructCall c.origin method d :: post
      ∧ Run (pgraph (Extension.step T X)) {} pre s₁ ∧ s₁.calls.length = i
      ∧ s.constructions[c.origin]? = some e
      ∧ Run (graph (step T))
          (World.fresh method d (e.created.inner.bind ChannelInner.callPlugin) .idle)
          (post.filterMap (ThreadAction.onto i c.origin)) w
      ∧ w.Alike (s.world c) := by
  obtain ⟨method, d, pre, post, s₁, e, has, hpre, hlen, he, halike⟩ := Extension.own_of_run h i c hc
  exact ⟨method, d, pre, post, s₁, e, _, has, hpre, hlen, he, Run.of_graph .., halike⟩

/-- Two calls of one channel, the second of which is used between two uses of the first. -/
def ThreadAction.sharing : List ThreadAction :=
  [.credentials (.create (.createSsl none none none)),
    .constructChannel (.ok ()) "localhost:1"
      ⟨[(.str "credentials", .channelCredentials 0)], by decide⟩,
    .constructCall 0 "/s/m" I64.max, .constructCall 0 "/s/n" I64.max,
    .onCall 0 .cancel, .onTransport 0 (.getConnectivityState (some (.bool true))),
    .onCall 1 (.setCredentials ⟨3⟩), .close 0,
    .onCall 0 (.setCredentials ⟨4⟩)]

/-- The first of them is what cancelling, closing and its own plugin have made of it. -/
theorem call_of_run_sharing : ∃ s c,
    Run (pgraph (Extension.step .ascii .plain)) {} ThreadAction.sharing s
      ∧ s.calls[0]? = some c
      ∧ ∃ method d pre post s₁ e w,
        ThreadAction.sharing = pre ++ .constructCall c.origin method d :: post
        ∧ Run (pgraph (Extension.step .ascii .plain)) {} pre s₁ ∧ s₁.calls.length = 0
        ∧ s.constructions[c.origin]? = some e
        ∧ Run (graph (step .ascii))
            (World.fresh method d (e.created.inner.bind ChannelInner.callPlugin) .idle)
            (post.filterMap (ThreadAction.onto 0 c.origin)) w
        ∧ w.Alike (s.world c) := by
  obtain ⟨s, hrun, hs⟩ := Run.exists_of_any (Extension.step .ascii .plain) {}
    ThreadAction.sharing (fun s ↦ s.calls[0]?.isSome) (by decide +kernel)
  obtain ⟨c, hc⟩ := Option.isSome_iff_exists.mp hs
  exact ⟨s, c, hrun, hc, call_of_run hrun hc⟩

end GrpcPhp
