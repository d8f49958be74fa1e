import GrpcPhp.Call.Step

/-!
# Which messages a call puts on the wire

A message travels by one of four routes: it is inlined into a unary request, put into a
server-stream request, sent on the request queue a first write opens, or forwarded to an
active stream.  The two request builders have no way to say "no message": they send
`send_message.unwrap_or_default()`, so a batch that dispatches without a message puts an
empty one on the wire that PHP never sent.

`Carried` is the condition that this does not happen and that the array of a batch names
the message operation at most once (of two entries only the last is sent, while both are
acknowledged).  Under it the wire carries exactly the acknowledged messages, in every run
without exceptions and without an expired deadline.
-/

namespace GrpcPhp

open Lib Php

variable {T : Tonic} {env : Env}

/-! ## One dispatch -/

/-- The deadline does not expire during the batch, neither before its dispatch nor while
it waits for the connection. -/
def Unexpired (w : World) : Action → Prop
  | .startBatch env _ => deadlineAlreadyExpired w.call.deadlineUsec env.nowDispatch = false
      ∧ env.unary ≠ .readyElapsed
  | _ => True

instance (w : World) (a : Action) : Decidable (Unexpired w a) := match a with
  | .startBatch _ _ => inferInstanceAs (Decidable (_ ∧ _))
  | .setCredentials _ | .cancel | .closeChannel => .isTrue trivial

/-- A batch that makes a request of its own has the message for it. -/
def Carries (w : World) (b : BatchOps) : Prop :=
  w.call.streamState = none → (b.hasRecvOps || b.sendClose) = true → b.sendMessage.isSome = true

instance (w : World) (b : BatchOps) : Decidable (Carries w b) :=
  inferInstanceAs (Decidable (_ → _ → _))

/-- A stream that was started before its deadline has put the request on the wire. -/
theorem Started.wire_eq {bidi : Bool} {rpc : I64 → Rpc} {w w' : World}
    (h : Started T env bidi rpc w (.ok ()) w')
    (hx : deadlineAlreadyExpired w.call.deadlineUsec env.nowDispatch = false) :
    w'.wire = w.wire ++ (rpc w.call.deadlineUsec).messages := by
  cases h with
  | expired h => simp [hx] at h
  | spawned => simp

/-- A unary call that returned before its deadline has put its message on the wire. -/
theorem Executed.wire_eq {md ps : Pairs} {m : Bytes} {w w' : World} {res : CallResult}
    (h : Executed T env md ps (some m) w (.ok res) w')
    (hx : deadlineAlreadyExpired w.call.deadlineUsec env.nowDispatch = false)
    (hu : env.unary ≠ .readyElapsed) : w'.wire = w.wire ++ [m] := by
  generalize hr : (Except.ok res : Except PhpException CallResult) = r at h
  cases h with
  | noRuntime => cases hr
  | expired h => simp [hx] at h
  | badPath => cases hr
  | raced _ hp =>
      -- a race that returned made its RPC, unless the connection was not ready in time
      have hd : env.unary.dispatched = true := by
        cases ho : env.unary with
        | readyError text => simp [ho, UnaryOutcome.result, Except.mapError] at hr
        | readyElapsed => exact absurd ho hu
        | deadline => rfl
        | response md body => rfl
        | status st => rfl
        | cancelled => simp [ho, UnaryOutcome.result, Except.mapError] at hr
      simp [UnaryOutcome.observe_effect, hd, Rpc.messages, buildRequest]

/-- A request resolved for a batch that has a message has that message. -/
theorem Requested.msg_eq {b : BatchOps} {w w' : World} {md ps : Pairs} {msg : Option Bytes}
    {m : Bytes} (h : Requested env b w md ps msg w') (hb : b.Consistent)
    (hm : b.sendMessage = some m) : msg = some m ∧ w'.wire = w.wire
      ∧ w'.call.deadlineUsec = w.call.deadlineUsec := by
  cases h with
  | own hsend hp => exact ⟨hm, hp.observe_eq fun _ ↦ rfl, by rw [hp.call_eq]⟩
  | buffered hsend => simp [hb.send, hm] at hsend

/-- **A dispatch that returns puts the message of its batch on the wire** and no other. -/
theorem Dispatched.wire_eq {b : BatchOps} {w w' : World} {r : BatchResult}
    (h : Dispatched T env b w (.ok r) w') (hb : b.Consistent) (hc : Carries w b)
    (hx : deadlineAlreadyExpired w.call.deadlineUsec env.nowDispatch = false)
    (hu : env.unary ≠ .readyElapsed) : w'.wire = w.wire ++ b.sendMessage.toList := by
  generalize hr : (Except.ok r : Except PhpException BatchResult) = r' at h
  cases h with
  | notForwarded => cases hr
  | forwarded _ _ hf => simpa using hf.observe_eq (f := Event.wire)
  | read _ _ hf _ => simpa using hf.observe_eq (f := Event.wire)
  | notRead => cases hr
  | writePluginFailed => cases hr
  | writeNotStarted => cases hr
  | write hst hrecv hclose hm hp hs hsent =>
      have hw := hp.observe_eq (f := Event.wire) fun _ ↦ rfl
      cases hsent with
      | failed => cases hr
      | delivered =>
          have hwire := hs.wire_eq (by rw [hp.call_eq]; exact hx)
          simp only [World.observe_emit, hwire, hw, hm]
          simp [bidiRpc, Rpc.messages, World.takePendingMetadata]
  | bufferPluginFailed => cases hr
  | buffered hst hrecv hclose hm hp =>
      have hw := hp.observe_eq (f := Event.wire) fun _ ↦ rfl
      simpa [World.extendPending, World.buffer, hm] using hw
  | @split ps r₁ w₁ w₂ hst hrecv hclose hp hs =>
      obtain ⟨m, hm⟩ := Option.isSome_iff_exists.mp (hc hst (by simp [hclose]))
      have hw := hp.observe_eq (f := Event.wire) fun _ ↦ rfl
      cases r₁ with
      | error e => cases hr
      | ok u =>
          have hwire := hs.wire_eq (by
            simp only [World.takePendingMessage, World.takePendingMetadata, World.extendPending,
              World.mapCall_call, hp.call_eq]
            exact hx)
          rw [hwire, hm]
          simpa [serverRpc, Rpc.messages, buildRequest, World.takePendingMessage,
            World.takePendingMetadata, World.extendPending, World.buffer] using hw
  | freshPluginFailed => cases hr
  | @unary md ps msg r₁ w₁ w₂ hst hrecv hq hpat he =>
      obtain ⟨m, hm⟩ := Option.isSome_iff_exists.mp (hc hst (by simp [hrecv]))
      obtain ⟨rfl, hw, hd⟩ := hq.msg_eq hb hm
      cases r₁ with
      | error e => cases hr
      | ok res => rw [he.wire_eq (by rw [hd]; exact hx) hu, hw, hm]; rfl
  | serverNotStarted => cases hr
  | server hst hrecv hq hpat hclosed hs hst₂ =>
      obtain ⟨m, hm⟩ := Option.isSome_iff_exists.mp (hc hst (by simp [hrecv]))
      obtain ⟨rfl, hw, hd⟩ := hq.msg_eq hb hm
      refine (hs.wire_eq (by rw [hd]; exact hx)).trans ?_
      rw [hw, hm]
      rfl

/-! ## Whole runs -/

/-- The array of an admitted batch names the message operation at most once, and a batch that makes
a request of its own (it receives, or it closes, while no stream is active) has the
message for it. -/
def Carried (w : World) : Action → Prop
  | .startBatch _ ops => ∀ b ∈ admitted w.call ops, (messageOps ops).length ≤ 1 ∧ Carries w b
  | _ => True

instance (w : World) (a : Action) : Decidable (Carried w a) := match a with
  | .startBatch _ ops => inferInstanceAs (Decidable (∀ b ∈ admitted w.call ops, _))
  | .setCredentials _ | .cancel | .closeChannel => .isTrue trivial

/-- An array with at most one message operation parses to the messages it names. -/
theorem ParsedAs.messageOps_eq {ops : ZendHashTable} {b : BatchOps} (h : ParsedAs ops b)
    (hone : (messageOps ops).length ≤ 1) : messageOps ops = b.sendMessage.toList := by
  rw [h.message]
  match messageOps ops, hone with
  | [], _ => rfl
  | [m], _ => rfl

/-- Every carried step without an exception keeps the wire equal to what was
acknowledged. -/
theorem step_wire_eq_acked {w : World} {a : Action} (hc : Carried w a) (hx : Unexpired w a)
    (hw : w.raises = [] → w.wire = w.acked) (hr : (step T w a).raises = []) :
    (step T w a).wire = (step T w a).acked := by
  cases a with
  | setCredentials plugin => exact hw hr
  | cancel => exact hw hr
  | closeChannel => exact hw hr
  | startBatch env ops =>
      obtain ⟨r, w', hb, hstep⟩ := step_startBatch_cases T env ops w
      rw [hstep] at hr ⊢
      cases hb with
      | rejected h => simp [World.settle] at hr
      | empty h =>
          have hwa := hw (by simpa [World.settle] using hr)
          simpa [World.settle] using hwa
      | raised ha hd => simp [World.settle] at hr
      | @returned b r₀ w₁ ha hd =>
          have hraises := hd.updates.raises_eq
          have hacked := hd.updates.acked_eq
          have hwire := hd.wire_eq ha.consistent (hc b ha.mem_admitted).2 hx.1 hx.2
          have hops := (parseOps_parsedAs ha.parsed).messageOps_eq (hc b ha.mem_admitted).1
          have hwa : w.wire = w.acked := hw (by simpa [World.settle, hraises] using hr)
          simp only [World.settle, World.observe_emit, World.observe_mapCall, hwire, hacked, hwa,
            Event.wire, Event.acked, BatchResult.ack, hops, List.append_nil]
          cases b.sendMessage <;> rfl

/-- The wire carries a prefix of the acknowledged messages, and all of them once the send
side is closed. -/
def WireFaithful (w : World) : Prop :=
  w.wire <+: w.acked ∧ (w.call.sendClosed = true → w.wire = w.acked)

instance (w : World) : Decidable (WireFaithful w) := inferInstanceAs (Decidable (_ ∧ _))

/-- **The messages on the wire are the messages acknowledged**, in every run of carried
batches that raises no exception and meets no expired deadline. -/
theorem wireFaithful_of_run {method : String} {d : I64} {p : Option PluginRef}
    {cs : ChannelState} {acts : List Action} {w : World}
    (h : Run (Such (graph (step T)) fun w a ↦ Carried w a ∧ Unexpired w a)
      (World.fresh method d p cs) acts w)
    (hr : w.raises = []) : WireFaithful w := by
  have heq : w.raises = [] → w.wire = w.acked :=
    h.state_invariant (I := fun w ↦ w.raises = [] → w.wire = w.acked) (fun _ ↦ rfl) (by
      rintro t a u ht ⟨⟨hc, hx⟩, rfl⟩ hu
      exact step_wire_eq_acked hc hx ht hu)
  exact ⟨heq hr ▸ List.prefix_rfl, fun _ ↦ heq hr⟩

/-- A client stream of two messages: both are on the wire once the stream is closed. -/
theorem wireFaithful_of_run_two :
    ∃ w, w.wire = [[1], [2]] ∧ w.call.sendClosed = true ∧ w.raises = [] ∧ WireFaithful w ∧
      Run (Such (graph (step Tonic.ascii)) fun w a ↦ Carried w a ∧ Unexpired w a)
        (World.fresh "/s/m" I64.max none .idle)
        [.startBatch .calm [metadataOp []], .startBatch .calm [messageOp [1]],
          .startBatch .calm [messageOp [2]],
          .startBatch .calm [Op.sendCloseFromClient.flag, Op.recvMessage.flag,
            Op.recvStatusOnClient.flag]] w :=
  have h := Run.of_along (by decide)
  ⟨_, by decide, by decide, by decide, wireFaithful_of_run h (by decide), h⟩

/-- A client stream without a message, closed by the batch that receives: an empty message
is on the wire that PHP never sent. -/
theorem empty_clientStream_sends :
    ∃ w, Run (Such (graph (step Tonic.ascii)) Unexpired) (World.fresh "/s/m" I64.max none .idle)
        [.startBatch .calm [metadataOp []],
          .startBatch .calm [Op.sendCloseFromClient.flag, Op.recvInitialMetadata.flag,
            Op.recvMessage.flag, Op.recvStatusOnClient.flag]] w ∧
      w.raises = [] ∧ w.acked = [] ∧ w.wire = [[]] ∧ ¬ WireFaithful w :=
  ⟨_, Run.of_along (by decide), by decide, by decide, by decide, by decide⟩

end GrpcPhp
