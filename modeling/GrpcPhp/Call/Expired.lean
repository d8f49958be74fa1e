import Mathlib.Data.List.Forall2
import GrpcPhp.Call.Compute
import GrpcPhp.Call.Request

/-!
# A deadline that has passed before the dispatch

A call whose deadline has passed when its first request is made is meant to fail locally:
nothing is sent, reads see the end of the stream, and the status is `DEADLINE_EXCEEDED`.
The unary path answers so directly.  The two streaming paths install
`expiredStreamState`, a stub without a request sender; the first write of a client or
bidi stream, which has just installed it, then fails to send its message on it and
throws.

`Shape` lists the ways PHP clients drive a call, `Lapsed` is the intended outcome, and
`lapsed_iff` says which shapes get it.  Every shape needs the runtime for each of its batches,
also where the deadline has passed: `get_runtime` is called before the deadline is looked at.
-/

namespace GrpcPhp

open Lib Php

variable {T : Tonic}

/-! ## The shapes of PHP clients -/

/-- What a bidi client does after its first write. -/
inductive BidiOp where
  | write (m : Bytes)
  | writesDone
  | read (headers : Bool)

/-- The batch of a bidi operation. -/
def BidiOp.batch : BidiOp → BatchOps
  | .write m => .write m
  | .writesDone => .writesDone
  | .read headers => .receive headers true false

/-- How a PHP client drives a call. -/
inductive Shape where
  /-- Everything in one batch. -/
  | unarySingle (md : Pairs) (m : Bytes) (headers : Bool)
  /-- The send operations, then the receive operations. -/
  | unarySplit (md : Pairs) (m : Bytes) (headers : Bool)
  /-- The send operations, then reads, some with the headers, then the status. -/
  | serverStreaming (md : Pairs) (m : Bytes) (reads : List Bool)
  /-- The metadata, one or more messages, then the close with the receive operations. -/
  | clientStreaming (md : Pairs) (m : Bytes) (ms : List Bytes) (headers : Bool)
  /-- The metadata, a first write, then writes, closes and reads in any order, then the
  status. -/
  | bidiStreaming (md : Pairs) (m : Bytes) (ops : List BidiOp)

namespace Shape

/-- The batches of a shape, in order. -/
def batches : Shape → List BatchOps
  | .unarySingle md m headers => [.unary md m headers]
  | .unarySplit md m headers => [.start md m, .receive headers true true]
  | .serverStreaming md m reads =>
      .start md m :: (reads.map (BatchOps.receive · true false) ++ [.receive false false true])
  | .clientStreaming md m ms headers =>
      .startStream md :: .write m :: (ms.map .write ++ [.closeAndRead headers])
  | .bidiStreaming md m ops =>
      .startStream md :: .write m :: (ops.map BidiOp.batch ++ [.receive false false true])

/-- The shapes whose request is made by a first write. -/
def opensWithWrite : Shape → Bool
  | .unarySingle .. | .unarySplit .. | .serverStreaming .. => false
  | .clientStreaming .. | .bidiStreaming .. => true

end Shape

/-- The actions issue the batches, whatever the outside does meanwhile. -/
def Plays (bs : List BatchOps) (acts : List Action) : Prop :=
  List.Forall₂ (fun b a ↦ ∃ env ops, a = .startBatch env ops ∧ parseOps ops = .ok b) bs acts

/-- The actions issue the batches, and the clock shows `d` or later when the first batch
that makes a request is issued. -/
inductive Issued (d : I64) : List BatchOps → List Action → Prop
  | nil : Issued d [] []
  | /-- A batch before the first request. -/
    before {b : BatchOps} {bs : List BatchOps} {env : Env} {ops : ZendHashTable}
      {acts : List Action} (hp : parseOps ops = .ok b) (hb : b.dispatches = false)
      (h : Issued d bs acts) : Issued d (b :: bs) (.startBatch env ops :: acts)
  | /-- The first batch that makes a request. -/
    first {b : BatchOps} {bs : List BatchOps} {env : Env} {ops : ZendHashTable}
      {acts : List Action} (hp : parseOps ops = .ok b) (hb : b.dispatches = true)
      (hnow : d.val ≤ env.nowDispatch.val) (h : Plays bs acts) :
      Issued d (b :: bs) (.startBatch env ops :: acts)

/-! ## The intended outcome -/

/-- What may happen in a call whose deadline has passed: no RPC, no exception, only null
messages and only status 4. -/
def Event.Lapsed : Event → Prop
  | .plugin _ => True
  | .dispatch _ | .message _ | .raised _ => False
  | .returned ops r => ∀ b ∈ (parseOps ops).toOption,
      (b.recvMessage = true → r.message = some none) ∧
      (b.recvStatus = true → r.status.map PhpStatus.code = some 4)

/-- The call went as a call whose deadline has passed should. -/
def Lapsed (w : World) : Prop := ∀ e ∈ w.log, e.Lapsed

/-- Nothing was raised in a call that went so. -/
theorem Lapsed.raises_eq {w : World} (h : Lapsed w) : w.raises = [] := by
  refine List.flatMap_eq_nil_iff.mpr fun e he ↦ ?_
  cases e with
  | raised e => exact absurd (h _ he) id
  | plugin => rfl
  | dispatch => rfl
  | message => rfl
  | returned => rfl

/-- A call that has not failed yet. -/
structure Live (w : World) : Prop where
  channelOpen : w.call.channelClosed = false
  notCancelled : w.call.cancelToken = false
  notFinished : w.call.finished = false
  noPlugin : w.call.callPlugin = none
  lapsed : Lapsed w

/-- The batch of the action finds a runtime. -/
def Action.HasRuntime : Action → Prop
  | .startBatch env _ => env.runtime = .ok ()
  | .setCredentials _ | .cancel | .closeChannel => True

/-- A step on a call with an outcome already wrong does not repair it. -/
theorem Lapsed.of_step {w : World} {a : Action} (h : Lapsed (step T w a)) : Lapsed w := by
  have hlog : ∀ e ∈ w.log, e ∈ (step T w a).log := by
    intro e he
    cases a with
    | setCredentials plugin => exact he
    | cancel => exact he
    | closeChannel => exact he
    | startBatch env ops =>
        obtain ⟨r, w', hb, hstep⟩ := step_startBatch_cases T env ops w
        have hup : w.log <+: w'.log := by
          cases hb with
          | rejected => exact List.prefix_rfl
          | empty => exact List.prefix_rfl
          | raised _ hd => exact hd.updates.log_isPrefix
          | returned _ hd => exact hd.updates.log_isPrefix
        rw [hstep]
        cases r <;> exact List.mem_append_left _ (hup.subset he)
  exact fun e he ↦ h e (hlog e he)

/-- A call whose outcome is wrong keeps it wrong. -/
theorem Lapsed.of_foldl {w : World} {acts : List Action} (h : Lapsed (acts.foldl (step T) w)) :
    Lapsed w := by
  induction acts generalizing w with
  | nil => exact h
  | cons a acts ih => exact (ih h).of_step

/-! ## One batch -/

section Batch

variable {env : Env} {ops : ZendHashTable} {w : World}

/-- A batch with operations on a live call is admitted, if it is the first with
metadata. -/
theorem Live.admitted (hw : Live w) {b : BatchOps} (hp : parseOps ops = .ok b)
    (hops : (b.hasSendOps || b.hasRecvOps) = true)
    (hmd : b.hasSendInitialMetadata = true → w.call.initialMetadataSent = false) :
    Admitted w.call ops b :=
  ⟨hp, hops, hw.channelOpen, hw.notCancelled, hw.notFinished, hmd⟩

/-- A returned batch with the intended result leaves the outcome as intended. -/
theorem Lapsed.returned {w v : World} {b : BatchOps} {r : BatchResult} (hw : Lapsed w)
    (hlog : v.log = w.log) (hp : parseOps ops = .ok b)
    (hmsg : b.recvMessage = true → r.message = some none)
    (hst : b.recvStatus = true → r.status.map PhpStatus.code = some 4) :
    Lapsed (v.emit (.returned ops r)) := by
  intro e he
  rw [World.emit, List.mem_append, hlog, List.mem_singleton] at he
  rcases he with he | rfl
  · exact hw e he
  · intro b' hb'
    rw [hp] at hb'
    cases hb'
    exact ⟨hmsg, hst⟩

/-- A raised batch is not the intended outcome. -/
theorem not_lapsed_emit_raised (w : World) (e : PhpException) : ¬ Lapsed (w.emit (.raised e)) :=
  fun h ↦ h (.raised e) (List.mem_append_right _ List.mem_cons_self)

/-- Without a runtime a dispatch that receives, or that would make the request of the call,
raises. -/
theorem Dispatched.raises_of_noRuntime {b : BatchOps} {w' : World}
    {r : Except PhpException BatchResult}
    (h : Dispatched T env b w r w') {text : String} (hrt : env.runtime = .error text)
    (hb : b.hasRecvOps = true ∨ w.call.streamState = none ∧ b.dispatches = true) :
    ∃ e, r = .error e := by
  have hno : env.runtime ≠ .ok () := by simp [hrt]
  cases h with
  | notForwarded => exact ⟨_, rfl⟩
  | forwarded hst hrecv => simp [hst, hrecv] at hb
  | read _ _ _ _ hok => exact absurd hok hno
  | notRead => exact ⟨_, rfl⟩
  | writePluginFailed => exact ⟨_, rfl⟩
  | writeNotStarted => exact ⟨_, rfl⟩
  | write _ _ _ _ _ hs => exact absurd hs.runtime_eq hno
  | bufferPluginFailed => exact ⟨_, rfl⟩
  | buffered hst hrecv hclose hm => simp [hrecv, hclose, hm, BatchOps.dispatches] at hb
  | split _ _ _ _ hs =>
      cases hs with
      | noRuntime => exact ⟨_, rfl⟩
      | badPath => exact ⟨_, rfl⟩
      | expired _ hok | spawned _ _ hok => exact absurd hok hno
  | freshPluginFailed => exact ⟨_, rfl⟩
  | unary _ _ _ _ he =>
      cases he with
      | noRuntime => exact ⟨_, rfl⟩
      | badPath => exact ⟨_, rfl⟩
      | expired _ hok | raced _ _ hok => exact absurd hok hno
  | serverNotStarted => exact ⟨_, rfl⟩
  | server _ _ _ _ _ hs => exact absurd hs.runtime_eq hno

/-- A batch that needs the runtime and does not find one raises. -/
theorem not_lapsed_of_noRuntime {b : BatchOps} (ha : Admitted w.call ops b)
    (hb : b.hasRecvOps = true ∨ w.call.streamState = none ∧ b.dispatches = true)
    (hrt : env.runtime ≠ .ok ()) : ¬ Lapsed (step T w (.startBatch env ops)) := by
  obtain ⟨text, hrt⟩ : ∃ text, env.runtime = .error text := by
    cases h : env.runtime with
    | error text => exact ⟨text, rfl⟩
    | ok u => exact absurd h hrt
  obtain ⟨r, w', hd⟩ : ∃ r w', dispatchBatch T env b (w.mapCall (·.accept b)) = (r, w') :=
    ⟨_, _, rfl⟩
  obtain ⟨e, rfl⟩ :=
    (dispatchBatch_dispatched ha.consistent ha.hasOps hd).raises_of_noRuntime hrt hb
  rw [step_of_dispatch_error ha hd]
  exact not_lapsed_emit_raised _ _

/-- The single unary batch reports the deadline. -/
theorem Live.unary (hw : Live w) (hst : w.call.streamState = none)
    (hmds : w.call.initialMetadataSent = false)
    (hx : deadlineAlreadyExpired w.call.deadlineUsec env.nowDispatch = true)
    (hrt : env.runtime = .ok ()) {md : Pairs}
    {m : Bytes} {headers : Bool} (hp : parseOps ops = .ok (.unary md m headers)) :
    Lapsed (step T w (.startBatch env ops)) := by
  have ha := hw.admitted hp rfl fun _ ↦ hmds
  have hd : dispatchBatch T env (.unary md m headers)
      (w.mapCall (·.accept (.unary md m headers))) =
      (.ok (buildUnaryResult T headers true true .deadlineExceeded),
        w.mapCall (·.accept (.unary md m headers))) :=
    dispatchBatch_unary hst rfl (.own rfl (.absent hw.noPlugin)) rfl (.expired hx hrt)
  rw [step_of_dispatch_ok ha hd]
  exact hw.lapsed.returned rfl hp (fun _ ↦ rfl) fun _ ↦ rfl

/-- A live call on which the stub is installed. -/
structure Stubbed (w : World) : Prop extends Live w where
  stub : w.call.streamState = some expiredStreamState

/-- The send half of a call installs the stub. -/
theorem Live.start (hw : Live w) (hst : w.call.streamState = none)
    (hmds : w.call.initialMetadataSent = false)
    (hx : deadlineAlreadyExpired w.call.deadlineUsec env.nowDispatch = true)
    (hrt : env.runtime = .ok ()) {md : Pairs} {m : Bytes}
    (hp : parseOps ops = .ok (.start md m)) :
    Stubbed (step T w (.startBatch env ops)) := by
  have ha := hw.admitted hp rfl fun _ ↦ hmds
  have hran :
      PluginRan env ((w.mapCall (·.accept (.start md m))).buffer (.start md m)) (.ok []) _ :=
    .absent hw.noPlugin
  have hd : dispatchBatch T env (.start md m) (w.mapCall (·.accept (.start md m))) =
      (.ok {}, w.mapCall fun c ↦ { c with
        initialMetadataSent := true, sendClosed := true, pendingMetadata := []
        pendingMessage := none, streamState := some expiredStreamState }) := by
    refine (dispatchBatch_split (w := w.mapCall (·.accept (.start md m))) hst rfl rfl rfl hran
      (.expired hx hrt)).trans ?_
    simp [BatchOps.start, World.buffer, World.extendPending, World.mapCall,
      World.takePendingMetadata, World.takePendingMessage, World.setStream, GrpcCall.accept]
  rw [step_of_dispatch_ok ha hd]
  refine ⟨⟨hw.channelOpen, hw.notCancelled, ?_, hw.noPlugin, ?_⟩, rfl⟩
  · simp [hw.notFinished, BatchOps.start]
  · exact hw.lapsed.returned rfl hp (fun h ↦ by cases h) fun h ↦ by cases h

/-- Reading from the stub gives null and the expired status, and leaves the stub in place
until the status is read. -/
theorem exchange_expired (headers message status : Bool) (d : I64) :
    exchange T env d (.receive headers message status) expiredStreamState =
      ({ metadata := if headers then some [] else none
         message := if message then some none else none
         status := if status then some ⟨[], 4, "Deadline Exceeded"⟩ else none },
        if status then { expiredStreamState with cachedTrailers := none }
          else expiredStreamState) := by
  cases headers <;> cases message <;> cases status <;> rfl

/-- A receive batch on the stub. -/
theorem Stubbed.receive (hw : Stubbed w) (hrt : env.runtime = .ok ())
    {headers message status : Bool}
    (hp : parseOps ops = .ok (.receive headers message status)) :
    Lapsed (step T w (.startBatch env ops)) ∧
      (status = false → Stubbed (step T w (.startBatch env ops))) := by
  have ha := hw.admitted hp rfl fun h ↦ by cases h
  rw [step_active ha hw.stub (fun m hm ↦ by cases hm) hrt, exchange_expired]
  have hlapsed : Lapsed
      (((w.mapCall (·.accept (.receive headers message status))).sent none).conclude ops
        (.receive headers message status) (
        { metadata := if headers then some [] else none
          message := if message then some none else none
          status := if status then some ⟨[], 4, "Deadline Exceeded"⟩ else none },
        if status then { expiredStreamState with cachedTrailers := none }
        else expiredStreamState)) := by
    refine hw.lapsed.returned rfl hp (fun hm ↦ ?_) fun hs ↦ ?_
    · simpa [BatchOps.receive, BatchResult.ack] using hm
    · simp only [BatchOps.receive] at hs
      simp [BatchResult.ack, hs]
  refine ⟨hlapsed, fun hs ↦ ⟨⟨hw.channelOpen, hw.notCancelled, ?_, hw.noPlugin, hlapsed⟩, ?_⟩⟩
  · simp [World.conclude, World.sent, GrpcCall.accept, hw.notFinished, BatchOps.receive, hs]
  · simp [World.conclude, hs]

/-- The metadata of a stream is buffered. -/
theorem Live.startStream (hw : Live w) (hst : w.call.streamState = none)
    (hmds : w.call.initialMetadataSent = false) {md : Pairs}
    (hp : parseOps ops = .ok (.startStream md)) :
    Live (step T w (.startBatch env ops))
      ∧ (step T w (.startBatch env ops)).call.streamState = none
      ∧ (step T w (.startBatch env ops)).call.deadlineUsec = w.call.deadlineUsec := by
  have ha := hw.admitted hp rfl fun _ ↦ hmds
  have hran : PluginRan env ((w.mapCall (·.accept (.startStream md))).buffer (.startStream md))
      (.ok []) _ := .absent hw.noPlugin
  have hd : dispatchBatch T env (.startStream md) (w.mapCall (·.accept (.startStream md))) =
      (.ok {}, w.mapCall fun c ↦ { c with
        initialMetadataSent := true, pendingMetadata := md, pendingMessage := none }) := by
    refine (dispatchBatch_buffered (w := w.mapCall (·.accept (.startStream md))) hst rfl rfl rfl rfl
      hran).trans ?_
    simp [BatchOps.startStream, World.buffer, World.extendPending, World.mapCall, GrpcCall.accept]
  rw [step_of_dispatch_ok ha hd]
  refine ⟨⟨hw.channelOpen, hw.notCancelled, ?_, hw.noPlugin, ?_⟩, hst, rfl⟩
  · simp [hw.notFinished, BatchOps.startStream]
  · exact hw.lapsed.returned rfl hp (fun h ↦ by cases h) fun h ↦ by cases h

/-- The first write installs the stub and throws on it. -/
theorem Live.write (hw : Live w) (hst : w.call.streamState = none)
    (hx : deadlineAlreadyExpired w.call.deadlineUsec env.nowDispatch = true) {m : Bytes}
    (hp : parseOps ops = .ok (.write m)) : ¬ Lapsed (step T w (.startBatch env ops)) := by
  have ha := hw.admitted hp rfl fun h ↦ by cases h
  by_cases hrt : env.runtime = .ok ()
  swap
  · exact not_lapsed_of_noRuntime ha (.inr ⟨hst, rfl⟩) hrt
  have hran : PluginRan env (w.mapCall (·.accept (.write m))).takePendingMetadata (.ok []) _ :=
    .absent hw.noPlugin
  have hd := dispatchBatch_write (T := T) (w := w.mapCall (·.accept (.write m))) (b := .write m) hst
    rfl rfl rfl rfl hran (.expired hx hrt)
  -- the stub has no sender for the message
  rw [Fallible.bind_error (sendStreamMessage_noSender rfl rfl hrt)] at hd
  rw [step_of_dispatch_error ha hd]
  exact not_lapsed_emit_raised _ _

end Batch

/-! ## Whole runs -/

/-- Reads from the stub, and then the status. -/
theorem Stubbed.reads {w : World} {acts : List Action} {reads : List Bool} {headers : Bool}
    {message : Bool} (hw : Stubbed w)
    (h : Plays
      (reads.map (BatchOps.receive · true false) ++ [.receive headers message true]) acts) :
    Lapsed (acts.foldl (step T) w) ↔ ∀ a ∈ acts, a.HasRuntime := by
  induction reads generalizing w acts with
  | nil =>
      obtain ⟨_, _, ⟨env, ops, rfl, hp⟩, hnil, rfl⟩ := List.forall₂_cons_left_iff.mp h
      obtain rfl := List.forall₂_nil_left_iff.mp hnil
      rw [List.forall_mem_singleton]
      refine ⟨fun hl ↦ ?_, fun hrt ↦ (hw.receive hrt hp).1⟩
      by_contra hrt
      exact not_lapsed_of_noRuntime (hw.admitted hp rfl nofun) (.inl rfl) hrt hl
  | cons read reads ih =>
      obtain ⟨_, _, ⟨env, ops, rfl, hp⟩, hrest, rfl⟩ := List.forall₂_cons_left_iff.mp h
      rw [List.foldl_cons, List.forall_mem_cons]
      by_cases hrt : env.runtime = .ok ()
      · rw [ih ((hw.receive hrt hp).2 rfl) hrest]
        exact ⟨fun h ↦ ⟨hrt, h⟩, fun h ↦ h.2⟩
      · have hraises := not_lapsed_of_noRuntime (T := T) (hw.admitted hp rfl nofun) (.inl rfl) hrt
        exact iff_of_false (fun hl ↦ hraises hl.of_foldl) fun h ↦ hrt h.1

/-- The send half of a call, then reads and the status: every batch needs the runtime. -/
theorem Live.startThenRead {w : World} {env : Env} {ops : ZendHashTable} {acts : List Action}
    {md : Pairs} {m : Bytes} {reads : List Bool} {headers message : Bool} (hw : Live w)
    (hst : w.call.streamState = none) (hmds : w.call.initialMetadataSent = false)
    (hx : deadlineAlreadyExpired w.call.deadlineUsec env.nowDispatch = true)
    (hp : parseOps ops = .ok (.start md m))
    (h : Plays
      (reads.map (BatchOps.receive · true false) ++ [.receive headers message true]) acts) :
    Lapsed ((Action.startBatch env ops :: acts).foldl (step T) w)
      ↔ ∀ a ∈ Action.startBatch env ops :: acts, a.HasRuntime := by
  rw [List.foldl_cons, List.forall_mem_cons]
  by_cases hrt : env.runtime = .ok ()
  · rw [(hw.start hst hmds hx hrt hp).reads h]
    exact ⟨fun h ↦ ⟨hrt, h⟩, fun h ↦ h.2⟩
  · have hraises := not_lapsed_of_noRuntime (T := T) (hw.admitted hp rfl fun _ ↦ hmds)
      (.inr ⟨hst, rfl⟩) hrt
    exact iff_of_false (fun hl ↦ hraises hl.of_foldl) fun h ↦ hrt h.1

/-- **An expired deadline behaves as intended for exactly the shapes that do not open with
a write**, as long as every batch finds a runtime. -/
theorem lapsed_iff {method : String} {d : I64} {cs : ChannelState} {shape : Shape}
    {acts : List Action} {w : World} (hpos : 0 < d.val) (hreal : d.val < I64.max.val)
    (hissued : Issued d shape.batches acts)
    (hrun : Run (graph (step T)) (World.fresh method d none cs) acts w) :
    Lapsed w ↔ shape.opensWithWrite = false ∧ ∀ a ∈ acts, a.HasRuntime := by
  obtain rfl := hrun.eq_foldl
  have hlive : Live (World.fresh method d none cs) := ⟨rfl, rfl, rfl, rfl, fun e he ↦ by cases he⟩
  have hexp : ∀ env : Env, d.val ≤ env.nowDispatch.val →
      deadlineAlreadyExpired d env.nowDispatch = true := by
    intro env hnow
    simp [deadlineAlreadyExpired, hpos, hreal, hnow]
  -- the first request of the two streaming shapes is the write
  have hwrite : ∀ {md : Pairs} {m : Bytes} {bs : List BatchOps},
      Issued d (.startStream md :: .write m :: bs) acts →
        ¬ Lapsed (acts.foldl (step T) (World.fresh method d none cs)) := by
    intro md m bs h hl
    cases h with
    | first _ hb => cases hb
    | before hp _ h =>
        obtain ⟨hlive, hst, hdl⟩ := hlive.startStream (T := T) rfl rfl hp
        cases h with
        | before _ hb => cases hb
        | first hp' _ hnow h => exact hlive.write hst (hdl ▸ hexp _ hnow) hp' (Lapsed.of_foldl hl)
  cases shape with
  | unarySingle md m headers =>
      refine Iff.trans ?_ (and_iff_right rfl).symm
      cases hissued with
      | before _ hb => cases hb
      | first hp _ hnow h =>
          obtain rfl := List.forall₂_nil_left_iff.mp h
          rw [List.forall_mem_singleton]
          refine ⟨fun hl ↦ ?_, fun hrt ↦ hlive.unary rfl rfl (hexp _ hnow) hrt hp⟩
          by_contra hrt
          exact not_lapsed_of_noRuntime (hlive.admitted hp rfl fun _ ↦ rfl) (.inl rfl) hrt hl
  | unarySplit md m headers =>
      refine Iff.trans ?_ (and_iff_right rfl).symm
      cases hissued with
      | before _ hb => cases hb
      | first hp _ hnow h =>
          have hplays : Plays (([] : List Bool).map (BatchOps.receive · true false)
            ++ [.receive headers true true]) _ := h
          exact hlive.startThenRead rfl rfl (hexp _ hnow) hp hplays
  | serverStreaming md m reads =>
      refine Iff.trans ?_ (and_iff_right rfl).symm
      cases hissued with
      | before _ hb => cases hb
      | first hp _ hnow h => exact hlive.startThenRead rfl rfl (hexp _ hnow) hp h
  | clientStreaming md m ms headers =>
      exact iff_of_false (hwrite hissued) fun h ↦ by cases h.1
  | bidiStreaming md m ops =>
      exact iff_of_false (hwrite hissued) fun h ↦ by cases h.1

/-- The split unary shape, issued in the very microsecond of its deadline. -/
theorem lapsed_iff_split :
    ∃ w, Run (graph (step Tonic.ascii)) (World.fresh "/s/m" (I64.ofInt 1) none .idle)
        [.startBatch .calm [metadataOp [], messageOp [1], Op.sendCloseFromClient.flag],
          .startBatch .calm [Op.recvMessage.flag, Op.recvStatusOnClient.flag]] w ∧
      (Lapsed w ↔ (Shape.unarySplit [] [1] false).opensWithWrite = false ∧
        ∀ a ∈ [Action.startBatch .calm [metadataOp [], messageOp [1], Op.sendCloseFromClient.flag],
          Action.startBatch .calm [Op.recvMessage.flag, Op.recvStatusOnClient.flag]],
          a.HasRuntime) :=
  ⟨_, Run.of_graph _ _ _, lapsed_iff (by decide) (by decide)
    (.first rfl rfl (by decide) (.cons ⟨_, _, rfl, rfl⟩ .nil)) (Run.of_graph _ _ _)⟩

/-- A client stream of one message whose deadline has passed: the write throws. -/
theorem clientStream_write_throws :
    ∃ w, Run (graph (step Tonic.ascii)) (World.fresh "/s/m" (I64.ofInt 1) none .idle)
        [.startBatch .calm [metadataOp []], .startBatch .calm [messageOp [1]],
          .startBatch .calm [Op.sendCloseFromClient.flag, Op.recvMessage.flag,
            Op.recvStatusOnClient.flag]] w ∧
      Issued (I64.ofInt 1) (Shape.clientStreaming [] [1] [] false).batches
        [.startBatch .calm [metadataOp []], .startBatch .calm [messageOp [1]],
          .startBatch .calm [Op.sendCloseFromClient.flag, Op.recvMessage.flag,
            Op.recvStatusOnClient.flag]] ∧
      w.raises = [.default "stream does not support sending"] ∧ ¬ Lapsed w :=
  ⟨_, Run.of_graph _ _ _,
    .before rfl rfl (.first rfl rfl (by decide) (.cons ⟨_, _, rfl, rfl⟩ .nil)), by decide,
    fun h ↦ absurd h.raises_eq (by decide)⟩

end GrpcPhp
