import GrpcPhp.Channel.Reuse

/-!
# Closing channels

A transport outlives the channel objects around it: `close` empties one object and sets the
flag that the calls constructed from it share, and nothing else.  What is closed is therefore
a matter of which `close` steps the run has made (`Extension.Tracked`), and a call depends on
the steps for one object only.
-/

namespace GrpcPhp

open Lib Php

namespace Extension

variable {T : Tonic} {X : Transport} {s s' : Extension} {a : ThreadAction}

/-! ## Closing -/

/-- The channel objects are as they were created, except those that were closed. -/
structure Tracked (as : List ThreadAction) (channels : List ChannelObject) : Prop where
  exists_of_close : ∀ k, .close k ∈ as → k < channels.length
  open_created : ∀ o ∈ channels, o.created.closedFlag = false
  closed : ∀ k o, channels[k]? = some o → .close k ∈ as → o.object = o.created.close
  unclosed : ∀ k o, channels[k]? = some o → .close k ∉ as → o.object = o.created

namespace Tracked

variable {as : List ThreadAction} {channels : List ChannelObject} {o : ChannelObject}

/-- Any action but closing. -/
theorem other (ht : Tracked as channels) (hne : ∀ k, a ≠ .close k) :
    Tracked (as ++ [a]) channels := by
  have hmem : ∀ k, .close k ∈ as ++ [a] ↔ .close k ∈ as := fun k ↦ by simp [(hne k).symm]
  exact ⟨fun k hk ↦ ht.exists_of_close k ((hmem k).mp hk), ht.open_created,
    fun k o ho hk ↦ ht.closed k o ho ((hmem k).mp hk),
    fun k o ho hk ↦ ht.unclosed k o ho fun hc ↦ hk ((hmem k).mpr hc)⟩

/-- A new object. -/
theorem add (ht : Tracked as channels) (hobj : o.object = o.created)
    (hflag : o.created.closedFlag = false) : Tracked as (channels ++ [o]) := by
  refine ⟨fun k hk ↦ ?_, fun o' ho ↦ ?_, fun k o' ho hk ↦ ?_, fun k o' ho hk ↦ ?_⟩
  · have := ht.exists_of_close k hk
    rw [List.length_append]
    omega
  · rw [List.mem_append, List.mem_singleton] at ho
    rcases ho with ho | rfl
    · exact ht.open_created o' ho
    · exact hflag
  · rcases getElem?_concat_eq_some ho with ho | ⟨rfl, rfl⟩
    · exact ht.closed k o' ho hk
    · exact absurd (ht.exists_of_close _ hk) (Nat.lt_irrefl _)
  · rcases getElem?_concat_eq_some ho with ho | ⟨rfl, rfl⟩
    · exact ht.unclosed k o' ho hk
    · exact hobj

/-- Closing an object, which may be closed already. -/
theorem close {k : ℕ} (ht : Tracked as channels) (hk : channels[k]? = some o) :
    Tracked (as ++ [.close k]) (channels.set k { o with object := o.object.close }) := by
  have hlt : k < channels.length := (List.getElem?_eq_some_iff.mp hk).1
  have hlast : .close k ∈ as ++ [.close k] := List.mem_append_right _ List.mem_cons_self
  have hmem : ∀ k', k' ≠ k → (.close k' ∈ as ++ [.close k] ↔ .close k' ∈ as) :=
    fun k' hne ↦ by simp [hne]
  refine ⟨fun k' hk' ↦ ?_, fun o' ho ↦ ?_, fun k' o' ho hk' ↦ ?_, fun k' o' ho hk' ↦ ?_⟩
  · rw [List.length_set]
    by_cases hne : k' = k
    · exact hne ▸ hlt
    · exact ht.exists_of_close k' ((hmem k' hne).mp hk')
  · rcases List.mem_or_eq_of_mem_set ho with ho | rfl
    · exact ht.open_created o' ho
    · exact ht.open_created o (List.mem_of_getElem? hk)
  · by_cases hne : k' = k
    · rw [hne, List.getElem?_set_self hlt] at ho
      cases ho
      rfl
    · rw [List.getElem?_set_ne (Ne.symm hne)] at ho
      exact ht.closed k' o' ho ((hmem k' hne).mp hk')
  · by_cases hne : k' = k
    · exact absurd hlast (hne ▸ hk')
    · rw [List.getElem?_set_ne (Ne.symm hne)] at ho
      exact ht.unclosed k' o' ho fun hc ↦ hk' ((hmem k' hne).mpr hc)

theorem step (ht : Tracked as s.channels) (h : s.step T X a = some s') :
    Tracked (as ++ [a]) s'.channels := by
  rcases step_channels h with ⟨o, hch, hobj, hflag, hne⟩ | ⟨k, o, rfl, hk, hch⟩ | ⟨hch, hne⟩
  · exact hch ▸ (ht.add hobj hflag).other hne
  · exact hch ▸ ht.close hk
  · exact hch ▸ ht.other hne

/-- An object is closed exactly if `close` was called on it. -/
theorem isClosed_iff (ht : Tracked as s.channels) (k : ℕ) :
    s.isClosed k = true ↔ .close k ∈ as := by
  constructor
  · intro h
    obtain ⟨o, ho, hflag⟩ := (Option.any_eq_true ..).mp h
    by_contra hk
    rw [ht.unclosed k o ho hk, ht.open_created o (List.mem_of_getElem? ho)] at hflag
    cases hflag
  · intro hk
    have ho := List.getElem?_eq_getElem (ht.exists_of_close k hk)
    rw [isClosed, ho, Option.any_some, ht.closed k _ ho hk]
    rfl

end Tracked

variable {as : List ThreadAction}

theorem tracked_of_run (h : Run (pgraph (step T X)) {} as s) : Tracked as s.channels :=
  h.invariant (I := fun as s ↦ Tracked as s.channels) ⟨by simp, by simp, by simp, by simp⟩
    fun _ _ _ _ ht hstep ↦ ht.step hstep

/-- Every call has the transport of the channel object it was constructed from. -/
def Linked (s : Extension) : Prop :=
  ∀ l ∈ s.links, ∃ e, s.constructions[l.1]? = some e ∧ e.transport = some l.2

theorem Linked.step (hl : s.Linked) (ht : Tracked as s.channels) (h : s.step T X a = some s') :
    s'.Linked := by
  have hold : ∀ l ∈ s.links, ∃ e, s'.constructions[l.1]? = some e ∧ e.transport = some l.2 := by
    intro l hmem
    obtain ⟨e, he, htr⟩ := hl l hmem
    exact ⟨e, step_constructions h he, htr⟩
  rcases step_links h with ⟨k, o, inner, ho, hinner, hlinks⟩ | hlinks
  · intro l hmem
    rw [hlinks, List.mem_append, List.mem_singleton] at hmem
    rcases hmem with hmem | rfl
    · exact hold l hmem
    · -- a closed object holds no transport, so this one is as it was created
      have hopen : .close k ∉ as := fun hk ↦ by
        rw [ht.closed k o ho hk] at hinner
        cases hinner
      have he : s.constructions[k]? = some o.toConstruction := by simp [constructions, ho]
      refine ⟨o.toConstruction, step_constructions h he, ?_⟩
      rw [Construction.transport, ← ht.unclosed k o ho hopen, hinner, Option.map_some]
  · exact fun l hmem ↦ hold l (hlinks ▸ hmem)

theorem linked_of_run (h : Run (pgraph (step T X)) {} as s) : s.Linked :=
  h.invariant_of_run (I := fun _ s ↦ s.Linked) (fun _ hl ↦ absurd hl List.not_mem_nil)
    fun _ _ _ _ hrun hl hstep ↦ hl.step (tracked_of_run hrun) hstep

/-- Closing another channel changes nothing for a call. -/
theorem world_close {k : ℕ} {c : CallObject} (h : s.step T X (.close k) = some s')
    (hk : k ≠ c.origin) : s'.calls = s.calls ∧ s'.world c = s.world c := by
  obtain ⟨o, -, rfl⟩ := Option.map_eq_some_iff.mp h
  have hclosed :
      isClosed { s with channels := s.channels.set k { o with object := o.object.close } } c.origin
        = s.isClosed c.origin := by
    simp [isClosed, List.getElem?_set_ne hk]
  exact ⟨rfl, by simp [world, hclosed]⟩

end Extension

/-! ## Reuse and isolation -/

open Extension

/-- **Reuse is complete and closing is isolated**, in every state of every run.

Persistent channels of one request share a transport, closed or not, and a channel that is
forced to be new or has a plugin shares its transport with no other.  A channel object holds
the transport it was created with until it is closed.  A constructor that raises leaves the
registry alone.  A call has the transport of the channel object it was constructed from; its
batches raise the exception of a closed channel exactly if that object was closed, and it
sees nothing of the closing of another one. -/
theorem reuse_of_run {T : Tonic} {X : Transport} {as : List ThreadAction} {s : Extension}
    (h : Run (pgraph (Extension.step T X)) {} as s) :
    (s.constructions.Pairwise fun e e' ↦
      (e.Persistent X → e'.Persistent X → e.SameRequest X e' → e.SharesTransport e')
        ∧ (¬ e.Persistent X ∨ ¬ e'.Persistent X → ¬ e.SharesTransport e'))
      ∧ (∀ k o, s.channels[k]? = some o → .close k ∉ as → o.object = o.created)
      ∧ (∀ runtime target args e r,
          GrpcChannel.construct X s.heap runtime target args s.registry = (.error e, r) →
            r = s.registry)
      ∧ ∀ c ∈ s.calls,
          (∃ e, s.constructions[c.origin]? = some e ∧ e.transport = some c.shared)
          ∧ (∀ env ops, (startBatch T env ops (s.world c)).1 = .error channelClosedException ↔
            .close c.origin ∈ as)
          ∧ ∀ k s', k ≠ c.origin → s.step T X (.close k) = some s' →
            s'.calls = s.calls ∧ s'.world c = s.world c := by
  have ht := tracked_of_run h
  refine ⟨(sound_of_run h).reuse, fun k o ↦ ht.unclosed k o,
    fun runtime target args e r hc ↦ construct_error hc, fun c hc ↦ ?_⟩
  refine ⟨linked_of_run h _ (List.mem_map.mpr ⟨c, hc, rfl⟩), fun env ops ↦ ?_,
    fun k s' hk hclose ↦ world_close hclose hk⟩
  exact (startBatch_closed_iff T env ops (s.world c)).trans (ht.isClosed_iff c.origin)

/-- A channel that is closed, the same channel again with its arguments in another order and a
call on it, and a channel that is forced to be new. -/
def ThreadAction.reopening : List ThreadAction :=
  [.credentials (.create (.createSsl none none none)),
    .constructChannel (.ok ()) "localhost:1"
      ⟨[(.str "credentials", .channelCredentials 0), (.str "a", .long I64.max),
        (.str "b", .string (toUtf8 "x"))], by decide⟩,
    .close 0,
    .constructChannel (.ok ()) "localhost:1"
      ⟨[(.str "b", .string (toUtf8 "x")), (.str "a", .long I64.max),
        (.str "credentials", .channelCredentials 0)], by decide⟩,
    .constructCall 1 "/s/m" I64.max,
    .constructChannel (.ok ()) "localhost:1"
      ⟨[(.str "credentials", .channelCredentials 0), (.str "force_new", .bool true)], by decide⟩]

/-- Only the last channel has a transport of its own, and the call is not affected by the
closing of the first one. -/
theorem reuse_of_run_reopening : ∃ s,
    Run (pgraph (Extension.step .ascii .plain)) {} ThreadAction.reopening s
      ∧ s.constructions.map Construction.transport = [some 0, some 0, some 1]
      ∧ s.links = [(1, 0)]
      ∧ ∀ c ∈ s.calls, ∀ env ops,
        (startBatch .ascii env ops (s.world c)).1 ≠ .error channelClosedException := by
  obtain ⟨s, hrun, hs⟩ := Run.exists_of_any (Extension.step .ascii .plain) {}
    ThreadAction.reopening
    (fun s ↦ s.constructions.map Construction.transport = [some 0, some 0, some 1]
      ∧ s.links = [(1, 0)]) (by decide +kernel)
  obtain ⟨htransports, hlinks⟩ := of_decide_eq_true hs
  refine ⟨s, hrun, htransports, hlinks, fun c hc env ops herr ↦ ?_⟩
  have hclosed := (((reuse_of_run hrun).2.2.2 c hc).2.1 env ops).mp herr
  have horigin : c.origin = 1 := by
    have hmem : (c.origin, c.shared) ∈ s.links := List.mem_map.mpr ⟨c, hc, rfl⟩
    rw [hlinks, List.mem_singleton] at hmem
    exact congrArg Prod.fst hmem
  rw [horigin] at hclosed
  simp [ThreadAction.reopening] at hclosed

end GrpcPhp
