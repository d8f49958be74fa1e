import GrpcPhp.Call.Exceptions
import GrpcPhp.Channel.PersistKey

/-!
# The extension on one PHP thread

Everything PHP code can do with the extension on one thread is one transition system: make
credentials, construct channels and calls, use the calls, and close channels.  Its state is
what these share.  Channel objects share transports through the registry, and a call refers
to two things: the transport, with its connectivity state, and the `closed_flag` of the one
channel object it was constructed from.

What a step does is said once (`Extension.Steps`), and from it for each part of the state that
results are about: the registry (`Extension.step_cases`), the channel objects
(`Extension.step_channels`) and the calls (`Extension.step_links`).
-/

namespace GrpcPhp

open Lib Php

/-! ## The state -/

/-- A construction of a channel that returned. -/
structure Construction where
  target : String
  args : PhpArray
  /-- The object as the constructor returned it. -/
  created : GrpcChannel

/-- A `Grpc\Channel` object, with how it was made. -/
structure ChannelObject extends Construction where
  /-- What it is now. -/
  object : GrpcChannel

/-- A `Grpc\Call` object.  The flag `channelClosed` of `call` is not read: it is the one of
the channel object. -/
structure CallObject where
  call : GrpcCall
  log : List Event := []
  /-- The channel object it was constructed from. -/
  origin : ℕ
  /-- Its transport. -/
  shared : ℕ

/-- The state of the extension on one thread. -/
structure Extension where
  heap : CredentialsHeap := {}
  registry : Registry := {}
  channels : List ChannelObject := []
  calls : List CallObject := []

/-- What can happen on the thread. -/
inductive ThreadAction where
  /-- Credentials are made, or the default roots are set. -/
  | credentials (a : CredentialsAction)
  /-- `new Channel`, with the result of entering the runtime. -/
  | constructChannel (runtime : Except String Unit) (target : String) (args : PhpArray)
  /-- `new Call` from a channel object. -/
  | constructCall (channel : ℕ) (method : String) (deadlineUsec : I64)
  /-- A method of a call. -/
  | onCall (call : ℕ) (a : Action)
  /-- `close` on a channel object. -/
  | close (channel : ℕ)
  /-- Anything else that concerns a transport: a stream's task, a poll, a probe. -/
  | onTransport (shared : ℕ) (e : ChannelEvent)

/-- `GrpcCall::__construct`. -/
def GrpcCall.construct (ch : GrpcChannel) (origin : ℕ) (method : String) (deadlineUsec : I64) :
    Except PhpException CallObject :=
  match ch.inner with
  | none => .error (invalidArgument "Call cannot be constructed from a closed Channel")
  | some inner => .ok
      { call := { method, deadlineUsec, callPlugin := inner.callPlugin }
        origin
        shared := inner.shared }

namespace Extension

/-- How the channel objects were made. -/
def constructions (s : Extension) : List Construction := s.channels.map ChannelObject.toConstruction

/-- The channel object and the transport of each call. -/
def links (s : Extension) : List (ℕ × ℕ) := s.calls.map fun c ↦ (c.origin, c.shared)

/-- The `closed_flag` of a channel object. -/
def isClosed (s : Extension) (channel : ℕ) : Bool :=
  s.channels[channel]?.any fun o ↦ o.object.closedFlag

/-- What a call object sees. -/
def world (s : Extension) (c : CallObject) : World where
  call := { c.call with channelClosed := s.isClosed c.origin }
  connectivity := s.registry.transports[c.shared]?.elim .idle fun t ↦ t.connectivity.state
  log := c.log

/-- Write back what a method of a call has changed. -/
def record (s : Extension) (i : ℕ) (c : CallObject) (w : World) : Extension :=
  { s with
    calls := s.calls.set i { c with call := w.call, log := w.log }
    registry.transports := s.registry.transports.modify c.shared fun t ↦
      { t with connectivity.state := w.connectivity } }

variable (T : Tonic) (X : Transport)

/-- `new Channel`; an object exists only if the constructor returns. -/
def constructChannel (s : Extension) (runtime : Except String Unit) (target : String)
    (args : PhpArray) : Extension :=
  match GrpcChannel.construct X s.heap runtime target args.entries s.registry with
  | (.ok ch, r) => { s with registry := r, channels := s.channels ++ [⟨⟨target, args, ch⟩, ch⟩] }
  | (.error _, r) => { s with registry := r }

/-- `new Call`. -/
def constructCall (s : Extension) (channel : ℕ) (method : String) (deadlineUsec : I64) :
    Option Extension :=
  s.channels[channel]?.map fun o ↦
    match GrpcCall.construct o.object channel method deadlineUsec with
    | .ok c => { s with calls := s.calls ++ [c] }
    | .error _ => s

/-- One step.  PHP can only use objects that exist. -/
def step (s : Extension) : ThreadAction → Option Extension
  | .credentials a => (s.heap.step a).map fun heap ↦ { s with heap }
  | .constructChannel runtime target args => some (s.constructChannel X runtime target args)
  | .constructCall channel method deadlineUsec => s.constructCall channel method deadlineUsec
  | .onCall _ .closeChannel => none
  | .onCall i a => s.calls[i]?.map fun c ↦ s.record i c (GrpcPhp.step T (s.world c) a)
  | .close channel => s.channels[channel]?.map fun o ↦
      { s with channels := s.channels.set channel { o with object := o.object.close } }
  | .onTransport shared e => s.registry.transports[shared]?.bind fun t ↦
      (t.connectivity.step T e).map fun connectivity ↦
        { s with registry.transports := s.registry.transports.set shared { t with connectivity } }

end Extension

/-! ## What a construction asked for -/

namespace Construction

variable (X : Transport)

/-- The transport of the object. -/
def transport (e : Construction) : Option ℕ := e.created.inner.map ChannelInner.shared

/-- Two objects hold one transport. -/
def SharesTransport (e e' : Construction) : Prop :=
  ∃ i, e.transport = some i ∧ e'.transport = some i

/-- The channel is neither forced to be new nor made with a call plugin. -/
def Persistent (e : Construction) : Prop :=
  forceNew X e.args.entries = false ∧ e.created.inner.bind ChannelInner.callPlugin = none

/-- The same target, the same credentials, and the same arguments in any order. -/
def SameRequest (e e' : Construction) : Prop :=
  e.target = e'.target ∧ credentialsArg e.args.entries = credentialsArg e'.args.entries
    ∧ argMap X e.args = argMap X e'.args

/-- The text the channel is registered under. -/
def key (heap : CredentialsHeap) (e : Construction) : Option String :=
  match scanArgs X e.args.entries, extractCredentials heap e.args.entries with
  | .ok scan, .ok creds => persistKey e.target scan creds
  | _, _ => none

/-- The construction as a request to the registry. -/
def served (heap : CredentialsHeap) (e : Construction) : Option String × ℕ :=
  (e.key X heap, e.transport.getD 0)

/-- The arguments were accepted, and the object is the one made for them. -/
structure Accepted (heap : CredentialsHeap) (e : Construction) (scan : ArgScan) (creds : Extracted)
    (shared : ℕ) : Prop where
  scanned : scanArgs X e.args.entries = .ok scan
  extracted : extractCredentials heap e.args.entries = .ok creds
  created_eq : e.created = wrapper e.target e.args.entries creds shared

/-- What a constructor returned was accepted. -/
theorem accepted_of_construct {heap : CredentialsHeap} {runtime : Except String Unit}
    {target : String} {args : PhpArray} {ch : GrpcChannel} {r r' : Registry}
    (h : GrpcChannel.construct X heap runtime target args.entries r = (.ok ch, r')) :
    ∃ scan creds shared, Accepted X heap ⟨target, args, ch⟩ scan creds shared
      ∧ Obtained X runtime target args.entries creds.tlsConfig (persistKey target scan creds)
          r shared r' := by
  rcases construct_cases h with ⟨_, he, -⟩ | ⟨scan, creds, shared, hscan, hcreds, hok, ho⟩
  · cases he
  · exact ⟨scan, creds, shared, ⟨hscan, hcreds, Except.ok.inj hok⟩, ho⟩

namespace Accepted

variable {X} {heap heap' : CredentialsHeap} {e e' : Construction} {scan scan' : ArgScan}
  {creds creds' : Extracted} {shared shared' : ℕ}

theorem transport_eq (h : e.Accepted X heap scan creds shared) : e.transport = some shared := by
  rw [transport, h.created_eq]
  rfl

theorem key_eq (h : e.Accepted X heap scan creds shared) :
    e.key X heap = persistKey e.target scan creds := by
  simp [key, h.scanned, h.extracted]

theorem served_eq (h : e.Accepted X heap scan creds shared) :
    e.served X heap = (persistKey e.target scan creds, shared) := by
  rw [served, h.key_eq, h.transport_eq, Option.getD_some]

/-- It stays accepted. -/
theorem step {a : CredentialsAction} (hs : heap.step a = some heap')
    (h : e.Accepted X heap scan creds shared) : e.Accepted X heap' scan creds shared :=
  ⟨h.scanned, extractCredentials_step hs h.extracted, h.created_eq⟩

/-- A persistent channel has a text, and no other has one. -/
theorem persistent_iff (h : e.Accepted X heap scan creds shared) :
    e.Persistent X ↔ ∃ k, persistKey e.target scan creds = some k := by
  rw [Persistent, h.created_eq, ← (scanArgs_eq h.scanned).1]
  cases hf : scan.forceNew <;> cases hp : creds.callPlugin <;> simp [persistKey, wrapper, hf, hp]

/-- Objects share a transport if their numbers are equal. -/
theorem sharesTransport_iff (h : e.Accepted X heap scan creds shared)
    (h' : e'.Accepted X heap scan' creds' shared') : e.SharesTransport e' ↔ shared = shared' := by
  simp [SharesTransport, h.transport_eq, h'.transport_eq, eq_comm]

/-- The same credentials give the same. -/
theorem creds_eq (h : e.Accepted X heap scan creds shared)
    (h' : e'.Accepted X heap scan' creds' shared')
    (heq : credentialsArg e.args.entries = credentialsArg e'.args.entries) : creds = creds' := by
  rcases extractCredentials_cases h.extracted with ⟨hn, rfl⟩ | ⟨i, c, hi, hc, rfl⟩
  · rcases extractCredentials_cases h'.extracted with ⟨-, rfl⟩ | ⟨j, c', hj, -, -⟩
    · rfl
    · cases hn.symm.trans (heq.trans hj)
  · rcases extractCredentials_cases h'.extracted with ⟨hn, -⟩ | ⟨j, c', hj, hc', rfl⟩
    · cases hi.symm.trans (heq.trans hn)
    · obtain rfl := Option.some.inj (hi.symm.trans (heq.trans hj))
      obtain rfl := Option.some.inj (hc.symm.trans hc')
      rfl

/-- The same request by persistent channels has the same text. -/
theorem persistKey_eq (h : e.Accepted X heap scan creds shared)
    (h' : e'.Accepted X heap scan' creds' shared') (hp : e.Persistent X) (hp' : e'.Persistent X)
    (heq : e.SameRequest X e') :
    persistKey e.target scan creds = persistKey e'.target scan' creds' := by
  obtain ⟨htarget, hcreds, hargs⟩ := heq
  obtain rfl := h.creds_eq h' hcreds
  obtain ⟨hforce, hparts⟩ := scanArgs_eq h.scanned
  obtain ⟨hforce', hparts'⟩ := scanArgs_eq h'.scanned
  rw [htarget]
  refine persistKey_eq_of_perm ?_ (by rw [hforce, hforce', hp.1, hp'.1])
  rw [hparts, hparts']
  exact ((argMap_eq_iff X e.args e'.args).mp hargs).map (part X)

end Accepted

end Construction

/-! ## What a step does -/

namespace Extension

/-- The effect of each step. -/
inductive Steps (T : Tonic) (X : Transport) (s : Extension) : ThreadAction → Extension → Prop
  | /-- Credentials are made, or the default roots are set. -/
    credentials {a : CredentialsAction} {heap : CredentialsHeap} : s.heap.step a = some heap →
      Steps T X s (.credentials a) { s with heap }
  | /-- A channel is constructed. -/
    constructed {runtime : Except String Unit} {target : String} {args : PhpArray}
      {ch : GrpcChannel} {r : Registry} :
      GrpcChannel.construct X s.heap runtime target args.entries s.registry = (.ok ch, r) →
      Steps T X s (.constructChannel runtime target args)
        { s with registry := r, channels := s.channels ++ [⟨⟨target, args, ch⟩, ch⟩] }
  | /-- The constructor of a channel raises. -/
    refused {runtime : Except String Unit} {target : String} {args : PhpArray} :
      Steps T X s (.constructChannel runtime target args) s
  | /-- A call is constructed from a channel object that holds a transport. -/
    called {channel : ℕ} {method : String} {d : I64} {o : ChannelObject} {inner : ChannelInner} :
      s.channels[channel]? = some o → o.object.inner = some inner →
      Steps T X s (.constructCall channel method d)
        { s with calls := s.calls ++
          [{ call := { method, deadlineUsec := d, callPlugin := inner.callPlugin }
             origin := channel, shared := inner.shared }] }
  | /-- A call cannot be constructed from a closed channel. -/
    notCalled {channel : ℕ} {method : String} {d : I64} :
      Steps T X s (.constructCall channel method d) s
  | /-- A method of a call. -/
    onCall {i : ℕ} {a : Action} {c : CallObject} : s.calls[i]? = some c →
      Steps T X s (.onCall i a) (s.record i c (GrpcPhp.step T (s.world c) a))
  | /-- A channel object is closed. -/
    close {channel : ℕ} {o : ChannelObject} : s.channels[channel]? = some o →
      Steps T X s (.close channel)
        { s with channels := s.channels.set channel { o with object := o.object.close } }
  | /-- Something else happens to a transport. -/
    onTransport {i : ℕ} {e : ChannelEvent} {t : SharedChannel} {connectivity : Connectivity} :
      s.registry.transports[i]? = some t → t.connectivity.step T e = some connectivity →
      Steps T X s (.onTransport i e)
        { s with registry.transports := s.registry.transports.set i { t with connectivity } }

variable {T : Tonic} {X : Transport} {s s' : Extension} {a : ThreadAction}

theorem steps_of_step (h : s.step T X a = some s') : s.Steps T X a s' := by
  cases a with
  | credentials c =>
      obtain ⟨heap, hheap, rfl⟩ := Option.map_eq_some_iff.mp h
      exact .credentials hheap
  | constructChannel runtime target args =>
      obtain rfl := Option.some.inj h
      unfold constructChannel
      split
      · next hc => exact .constructed hc
      · next hc =>
        obtain rfl := construct_error hc
        exact .refused
  | constructCall channel method d =>
      obtain ⟨o, ho, rfl⟩ := Option.map_eq_some_iff.mp h
      unfold GrpcCall.construct
      cases hinner : o.object.inner with
      | none => exact .notCalled
      | some inner => exact .called ho hinner
  | onCall i a =>
      cases a with
      | closeChannel => cases h
      | startBatch | setCredentials | cancel =>
          obtain ⟨c, hc, rfl⟩ := Option.map_eq_some_iff.mp h
          exact .onCall hc
  | close channel =>
      obtain ⟨o, ho, rfl⟩ := Option.map_eq_some_iff.mp h
      exact .close ho
  | onTransport i e =>
      obtain ⟨t, ht, h⟩ := Option.bind_eq_some_iff.mp h
      obtain ⟨c, hc, rfl⟩ := Option.map_eq_some_iff.mp h
      exact .onTransport ht hc

/-- What a step does to the registry, and to the history of constructions: it changes the
credentials, or a constructor returns a new channel, or it does neither. -/
theorem step_cases (h : s.step T X a = some s') :
    (∃ c, a = .credentials c ∧ s.heap.step c = some s'.heap ∧ s'.registry = s.registry
        ∧ s'.constructions = s.constructions)
      ∨ (∃ runtime target args ch, a = .constructChannel runtime target args
        ∧ GrpcChannel.construct X s.heap runtime target args.entries s.registry
            = (.ok ch, s'.registry)
        ∧ s'.heap = s.heap ∧ s'.constructions = s.constructions ++ [⟨target, args, ch⟩])
      ∨ s'.heap = s.heap ∧ s'.registry.table = s.registry.table
        ∧ s'.constructions = s.constructions := by
  cases steps_of_step h with
  | credentials hheap => exact .inl ⟨_, rfl, hheap, rfl, rfl⟩
  | constructed hc => exact .inr (.inl ⟨_, _, _, _, rfl, hc, rfl, List.map_append⟩)
  | refused | called | notCalled => exact .inr (.inr ⟨rfl, rfl, rfl⟩)
  | onCall => exact .inr (.inr ⟨rfl, by simp [record, Registry.table], rfl⟩)
  | close ho => exact .inr (.inr ⟨rfl, rfl, map_set_of_getElem? _ ho rfl⟩)
  | onTransport => exact .inr (.inr ⟨rfl, by simp [Registry.table], rfl⟩)

/-- What a step does to the channel objects: one is added as it was created, or one is closed,
or they stay. -/
theorem step_channels (h : s.step T X a = some s') :
    (∃ o : ChannelObject, s'.channels = s.channels ++ [o] ∧ o.object = o.created
        ∧ o.created.closedFlag = false ∧ ∀ k, a ≠ .close k)
      ∨ (∃ k o, a = .close k ∧ s.channels[k]? = some o
        ∧ s'.channels = s.channels.set k { o with object := o.object.close })
      ∨ s'.channels = s.channels ∧ ∀ k, a ≠ .close k := by
  cases steps_of_step h with
  | constructed hc =>
      obtain ⟨_, _, _, ha, -⟩ := Construction.accepted_of_construct X hc
      refine .inl ⟨_, rfl, rfl, ?_, fun k hk ↦ by cases hk⟩
      rw [ha.created_eq]
      rfl
  | close ho => exact .inr (.inl ⟨_, _, rfl, ho, rfl⟩)
  | _ => exact .inr (.inr ⟨rfl, fun k hk ↦ by cases hk⟩)

/-- What a step does to the calls: one is constructed from a channel object that holds a
transport, or all stay with their channel and transport. -/
theorem step_links (h : s.step T X a = some s') :
    (∃ k o inner, s.channels[k]? = some o ∧ o.object.inner = some inner
        ∧ s'.links = s.links ++ [(k, inner.shared)])
      ∨ s'.links = s.links := by
  cases steps_of_step h with
  | called ho hinner => exact .inl ⟨_, _, _, ho, hinner, List.map_append⟩
  | onCall hc => exact .inr (map_set_of_getElem? _ hc rfl)
  | _ => exact .inr rfl

/-- A construction keeps its number. -/
theorem step_constructions (h : s.step T X a = some s') {k : ℕ} {e : Construction}
    (he : s.constructions[k]? = some e) : s'.constructions[k]? = some e := by
  rcases step_cases h with ⟨_, -, -, -, hcons⟩ | ⟨_, _, _, _, -, -, -, hcons⟩ | ⟨-, -, hcons⟩
  · rw [hcons, he]
  · rw [hcons, getElem?_append_of_eq_some he]
  · rw [hcons, he]

end Extension

end GrpcPhp
