import GrpcPhp.Call.SingleRpc

/-!
# What request a batch makes

The metadata of a request comes from one of two places: from the batch, or from the
buffer an earlier batch filled.  Which one is decided by the shape of the batch alone
(`BatchOps.takesBuffer`), so a batch can bring metadata and have the buffer used in its
place, or leave a full buffer behind.  `NewRpc` describes the request a dispatch makes
and `Pending` what becomes of the buffer.
-/

namespace GrpcPhp

open Lib Php

variable {T : Tonic} {env : Env}

/-! ## The source of the metadata -/

/-- Whether a batch makes a request when no stream is active: it receives, closes, or has
a message. -/
def BatchOps.dispatches (b : BatchOps) : Bool :=
  b.hasRecvOps || b.sendClose || b.sendMessage.isSome

/-- Whether a batch that makes a request takes the request's metadata from the buffer: a
receive batch does if it has no send operation, a send-only batch if it has no close. -/
def BatchOps.takesBuffer (b : BatchOps) : Bool :=
  if b.hasRecvOps then !b.hasSendOps else !b.sendClose

/-- The metadata a batch makes its request with, before the plugin's pairs. -/
def BatchOps.source (b : BatchOps) (c : GrpcCall) : Pairs :=
  if b.takesBuffer then c.pendingMetadata else b.sendMetadata

/-- The request a dispatch from `w` to `w'` made: no stream was active, and the plugin's
pairs `ps` were added to the source's.  They are empty when the plugin was not invoked,
for want of one or because the batch has no send operation. -/
structure NewRpc (T : Tonic) (b : BatchOps) (w w' : World) (rpc : Rpc) (ps : Pairs) : Prop where
  noStream : w.call.streamState = none
  dispatches : b.dispatches = true
  rpcs : w'.rpcs = w.rpcs ++ [rpc]
  metadata : rpc.metadata = requestMetadata T (b.source w.call) ps
  plugin : ps ∈ w'.invocations ∨ ps = [] ∧ (b.hasSendOps = false ∨ w.call.callPlugin = none)

/-- The pairs the plugin stage passes on were returned by an invocation, or there is no
plugin. -/
theorem PluginRan.pairs {w w' : World} {ps : Pairs} (h : PluginRan env w (.ok ps) w') :
    ps ∈ w'.invocations ∨ ps = [] ∧ w.call.callPlugin = none := by
  cases h with
  | absent h => exact .inr ⟨rfl, h⟩
  | invoked => exact .inl (by simp)

/-- Starting a stream makes no RPC, or the one it was given. -/
theorem Started.rpc {bidi : Bool} {rpc : I64 → Rpc} {w w' : World}
    {r : Except PhpException Unit} (h : Started T env bidi rpc w r w') :
    w'.rpcs = w.rpcs ∨ w'.rpcs = w.rpcs ++ [rpc w.call.deadlineUsec] := by
  cases h <;> simp

/-- A unary call makes no RPC, or the one with the request it was given. -/
theorem Executed.rpc {md ps : Pairs} {msg : Option Bytes} {w w' : World}
    {r : Except PhpException CallResult} (h : Executed T env md ps msg w r w') :
    w'.rpcs = w.rpcs ∨ w'.rpcs = w.rpcs ++
      [.unary (buildRequest T env md ps (msg.getD []) w.call.deadlineUsec)] := by
  cases h with
  | noRuntime => exact .inl rfl
  | expired => exact .inl rfl
  | badPath => simp
  | raced => cases hd : env.unary.dispatched <;> simp [UnaryOutcome.observe_effect, hd]

/-- The metadata of a receive batch without an active stream comes from the source. -/
theorem Requested.source {b : BatchOps} {w w' : World} {md ps : Pairs} {msg : Option Bytes}
    (h : Requested env b w md ps msg w') (hrecv : b.hasRecvOps = true) :
    md = b.source w.call
      ∧ (ps ∈ w'.invocations ∨ ps = [] ∧ (b.hasSendOps = false ∨ w.call.callPlugin = none)) := by
  cases h with
  | own hsend hp =>
      refine ⟨by simp [BatchOps.source, BatchOps.takesBuffer, hrecv, hsend], ?_⟩
      exact hp.pairs.imp_right fun ⟨h₁, h₂⟩ ↦ ⟨h₁, .inr h₂⟩
  | buffered hsend =>
      exact ⟨by simp [BatchOps.source, BatchOps.takesBuffer, hrecv, hsend],
        .inr ⟨rfl, .inl hsend⟩⟩

/-- Pairs of the plugin that went through the buffer make the same request as pairs that are
passed on their own. -/
theorem buildRequest_append {β : Type} (md ps : Pairs) (m : β) (d : I64) :
    buildRequest T env (md ++ ps) [] m d = buildRequest T env md ps m d := by
  simp only [buildRequest, requestMetadata_eq, List.append_nil]

/-- A dispatch that resolved its request in `v` and then made at most one RPC. -/
theorem newRpc_of_resolved {b : BatchOps} {w v w' : World} {rpc : Rpc} (ps : Pairs)
    (hst : w.call.streamState = none) (hdispatches : b.dispatches = true)
    (hv : v.rpcs = w.rpcs) (hrpc : w'.rpcs = v.rpcs ∨ w'.rpcs = v.rpcs ++ [rpc])
    (hinv : w'.invocations = v.invocations)
    (hmd : rpc.metadata = requestMetadata T (b.source w.call) ps)
    (hps : ps ∈ v.invocations ∨ ps = [] ∧ (b.hasSendOps = false ∨ w.call.callPlugin = none)) :
    w'.rpcs = w.rpcs ∨ ∃ rpc ps, NewRpc T b w w' rpc ps := by
  rw [hv] at hrpc
  rcases hrpc with h | h
  · exact .inl h
  · exact .inr ⟨rpc, ps, hst, hdispatches, h, hmd, hinv ▸ hps⟩

/-- **The request of a dispatch.**  A dispatch makes no RPC, or one whose metadata is the
source's followed by the plugin's. -/
theorem Dispatched.newRpc {b : BatchOps} {w w' : World} {r : Except PhpException BatchResult}
    (h : Dispatched T env b w r w') :
    w'.rpcs = w.rpcs ∨ ∃ rpc ps, NewRpc T b w w' rpc ps := by
  cases h with
  | notForwarded => exact .inl rfl
  | forwarded _ _ hf => exact .inl hf.rpcs_eq
  | read _ _ hf _ => exact .inl (by simpa using hf.rpcs_eq)
  | notRead => exact .inl (World.observe_forwarded_none _)
  | writePluginFailed _ _ _ _ hp => exact .inl hp.rpcs_eq
  | writeNotStarted _ _ _ _ hp hs =>
      cases hs with | noRuntime | badPath => exact .inl hp.rpcs_eq
  | @write m ps r w₁ w₂ w₃ hst hrecv hclose hm hp hs hsent =>
      have hinv : w'.invocations = w₁.invocations :=
        (hsent.observe_eq fun _ ↦ rfl).trans (hs.observe_eq fun _ ↦ rfl)
      refine newRpc_of_resolved ps hst (by simp [BatchOps.dispatches, hm]) hp.rpcs_eq
        (hsent.rpcs_eq ▸ hs.rpc) hinv ?_ ?_
      · simp [bidiRpc, Rpc.metadata, buildRequest, BatchOps.source, BatchOps.takesBuffer, hrecv,
          hclose]
      · exact hp.pairs.imp_right fun ⟨h₁, h₂⟩ ↦ ⟨h₁, .inr h₂⟩
  | bufferPluginFailed _ _ _ hp => exact .inl hp.rpcs_eq
  | buffered _ _ _ _ hp => exact .inl hp.rpcs_eq
  | @split ps r w₁ w₂ hst hrecv hclose hp hs =>
      have hinv : w'.invocations = w₁.invocations := hs.observe_eq fun _ ↦ rfl
      refine newRpc_of_resolved (v := w₁) ps hst (by simp [BatchOps.dispatches, hclose]) hp.rpcs_eq
        hs.rpc hinv ?_ ?_
      · rw [serverRpc, buildRequest_append]
        simp [Rpc.metadata, buildRequest, BatchOps.source, BatchOps.takesBuffer, hrecv, hclose]
      · exact hp.pairs.imp_right fun ⟨h₁, h₂⟩ ↦ ⟨h₁, .inr h₂⟩
  | freshPluginFailed _ _ _ hp => exact .inl hp.rpcs_eq
  | @unary md ps msg r w₁ w₂ hst hrecv hq hpat he =>
      obtain ⟨rfl, hps⟩ := hq.source hrecv
      have hinv : w'.invocations = w₁.invocations := he.observe_eq fun _ ↦ rfl
      exact newRpc_of_resolved ps hst (by simp [BatchOps.dispatches, hrecv]) hq.rpcs_eq he.rpc hinv
        rfl hps
  | serverNotStarted _ _ hq _ _ hs =>
      cases hs with | noRuntime | badPath => exact .inl hq.rpcs_eq
  | @server md ps msg st w₁ w₂ hst hrecv hq hpat hclosed hs hst₂ =>
      obtain ⟨rfl, hps⟩ := hq.source hrecv
      have hinv : w₂.invocations = w₁.invocations := hs.observe_eq fun _ ↦ rfl
      exact newRpc_of_resolved ps hst (by simp [BatchOps.dispatches, hrecv]) hq.rpcs_eq hs.rpc hinv
        rfl hps

/-! ## What becomes of the buffered metadata -/

/-- What a dispatch leaves in the metadata buffer. -/
inductive Pending (b : BatchOps) (w : World) (r : Except PhpException BatchResult) (w' : World) :
    Prop
  | /-- The buffer was not used. -/
    kept (h : w'.call.pendingMetadata = w.call.pendingMetadata)
  | /-- The buffer was taken. -/
    taken (h : w'.call.pendingMetadata = [])
  | /-- The batch was buffered, but the plugin failed. -/
    overwritten (hst : w.call.streamState = none) (hrecv : b.hasRecvOps = false)
      (hclose : b.sendClose = true ∨ b.sendMessage = none) (hr : ∀ res, r ≠ .ok res)
      (h : w'.call.pendingMetadata = b.sendMetadata)
  | /-- The batch was buffered with the plugin's pairs. -/
    buffered {ps : Pairs} (hst : w.call.streamState = none) (hrecv : b.hasRecvOps = false)
      (hclose : b.sendClose = false) (hm : b.sendMessage = none)
      (h : w'.call.pendingMetadata = b.sendMetadata ++ ps) (hps : ps = [] ∨ ps ∈ w'.invocations)

theorem Started.pending_eq {bidi : Bool} {rpc : I64 → Rpc} {w w' : World}
    {r : Except PhpException Unit} (h : Started T env bidi rpc w r w') :
    w'.call.pendingMetadata = w.call.pendingMetadata := by
  cases h <;> rfl

theorem Executed.pending_eq {md ps : Pairs} {msg : Option Bytes} {w w' : World}
    {r : Except PhpException CallResult} (h : Executed T env md ps msg w r w') :
    w'.call.pendingMetadata = w.call.pendingMetadata := by
  cases h with
  | noRuntime => rfl
  | expired => rfl
  | badPath => rw [World.recordOutcome_call]
  | raced =>
      rw [World.recordOutcome_call]
      cases env.unary <;> rfl

theorem Forwarded.pending_eq {msg : Option Bytes} {close : Bool} {w w' : World}
    {r : Except PhpException Unit} (h : Forwarded env msg close w r w') :
    w'.call.pendingMetadata = w.call.pendingMetadata := by
  cases h with
  | failed => rfl
  | done => cases msg <;> cases close <;> rfl

theorem Requested.pending_eq {b : BatchOps} {w w' : World} {md ps : Pairs} {msg : Option Bytes}
    (h : Requested env b w md ps msg w') :
    w'.call.pendingMetadata = w.call.pendingMetadata ∨ w'.call.pendingMetadata = [] := by
  cases h with
  | own _ hp => exact .inl (by rw [hp.call_eq])
  | buffered => exact .inr rfl

/-- The buffer after a dispatch. -/
theorem Dispatched.pending {b : BatchOps} {w w' : World} {r : Except PhpException BatchResult}
    (h : Dispatched T env b w r w') : Pending b w r w' := by
  cases h with
  | notForwarded => exact .kept rfl
  | forwarded _ _ hf => exact .kept hf.pending_eq
  | read _ _ hf _ => exact .kept hf.pending_eq
  | notRead => exact .kept (by cases b.sendClose <;> rfl)
  | writePluginFailed _ _ _ _ hp => exact .taken (by rw [hp.call_eq]; rfl)
  | writeNotStarted _ _ _ _ hp hs => exact .taken (by rw [hs.pending_eq, hp.call_eq]; rfl)
  | write _ _ _ _ hp hs hsent =>
      exact .taken (by rw [hsent.call_eq, hs.pending_eq, hp.call_eq]; rfl)
  | bufferPluginFailed hst hrecv hclose hp =>
      exact .overwritten hst hrecv hclose (fun res h ↦ by cases h) (by rw [hp.call_eq]; rfl)
  | @buffered ps w₁ hst hrecv hclose hm hp =>
      have hmd : (w₁.extendPending ps).call.pendingMetadata = b.sendMetadata ++ ps := by
        simp [World.extendPending, hp.call_eq, World.buffer]
      exact .buffered hst hrecv hclose hm hmd (hp.pairs.symm.imp_left fun h ↦ h.1)
  | split _ _ _ hp hs => exact .taken (by rw [hs.pending_eq]; rfl)
  | freshPluginFailed _ _ _ hp => exact .kept (by rw [hp.call_eq])
  | unary _ _ hq _ he =>
      rcases hq.pending_eq with h | h
      · exact .kept (he.pending_eq.trans h)
      · exact .taken (he.pending_eq.trans h)
  | serverNotStarted _ _ hq _ _ hs =>
      rcases hq.pending_eq with h | h
      · exact .kept (hs.pending_eq.trans h)
      · exact .taken (hs.pending_eq.trans h)
  | server _ _ hq _ _ hs _ =>
      rcases hq.pending_eq with h | h
      · exact .kept (hs.pending_eq.trans h)
      · exact .taken (hs.pending_eq.trans h)

end GrpcPhp
