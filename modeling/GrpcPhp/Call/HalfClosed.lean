import GrpcPhp.Call.Compute
import GrpcPhp.Call.Request

/-!
# Half-closed requests

A batch that brings the metadata, the message and the close makes its request at once, on
one of three paths.  With all receive operations it is a unary call; without any, the
plugin's pairs are appended to the buffered metadata and the buffers are dispatched; with
a receive operation but without the status it opens a server stream, to which the plugin's
pairs are passed on their own.

The paths differ in the RPC they make and in when they make none.  The request is the same
on all of them: `Dispatched.rpcs_halfClosed` computes it for every batch with a close, and the
two ways to combine the pairs agree by `buildRequest_append`.
-/

namespace GrpcPhp

open Lib Php

variable {T : Tonic} {env : Env}

/-! ## Whether a request is made -/

/-- The pairs the plugin of a call returns; none if the call has no plugin. -/
def Env.pluginPairs (env : Env) (c : GrpcCall) : Except GrpcError Pairs :=
  match c.callPlugin with
  | none => .ok []
  | some p => (env.plugin p c.method).pairs

/-- What is checked before any request: there is a runtime, the deadline has not passed and
the method is a path. -/
def Env.admits (T : Tonic) (env : Env) (c : GrpcCall) : Bool :=
  env.begins c.deadlineUsec && (T.path c.method).isOk

/-- The plugin stage passes on what the plugin returns. -/
theorem PluginRan.pairs_eq {w w' : World} {ps qs : Pairs} (h : PluginRan env w (.ok qs) w')
    (hps : env.pluginPairs w.call = .ok ps) : qs = ps := by
  cases h with
  | absent h => simpa [Env.pluginPairs, h] using hps
  | invoked h hqs => simpa [Env.pluginPairs, h, hqs] using hps

/-- The plugin stage fails only if the plugin does. -/
theorem PluginRan.pluginPairs_ne {w w' : World} {e : PhpException}
    (h : PluginRan env w (.error e) w') (ps : Pairs) : env.pluginPairs w.call ≠ .ok ps := by
  cases h with
  | failed h he => simp [Env.pluginPairs, h, he]

/-- Starting a stream makes its RPC exactly if the checks pass. -/
theorem Started.rpcs_eq {bidi : Bool} {rpc : I64 → Rpc} {w w' : World}
    {r : Except PhpException Unit} (h : Started T env bidi rpc w r w') :
    w'.rpcs = w.rpcs ++ if env.admits T w.call then [rpc w.call.deadlineUsec] else [] := by
  cases h with
  | noRuntime hrt => simp [Env.admits, Env.begins_of_noRuntime hrt]
  | expired hx hrt => simp [Env.admits, Env.begins_of_runtime hrt, hx]
  | badPath hx hp hrt =>
      simp [Env.admits, Env.begins_of_runtime hrt, hx, hp, Except.isOk, Except.toBool]
  | spawned hx hp hrt =>
      simp [Env.admits, Env.begins_of_runtime hrt, hx, hp, Except.isOk, Except.toBool]

/-- A unary call makes its RPC exactly if the checks pass and the channel gets ready. -/
theorem Executed.rpcs_eq {md ps : Pairs} {msg : Option Bytes} {w w' : World}
    {r : Except PhpException CallResult} (h : Executed T env md ps msg w r w') :
    w'.rpcs = w.rpcs ++ if env.admits T w.call && env.unary.dispatched then
      [.unary (buildRequest T env md ps (msg.getD []) w.call.deadlineUsec)] else [] := by
  cases h with
  | noRuntime hrt => simp [Env.admits, Env.begins_of_noRuntime hrt]
  | expired hx hrt => simp [Env.admits, Env.begins_of_runtime hrt, hx]
  | badPath hx hp hrt =>
      simp [Env.admits, Env.begins_of_runtime hrt, hx, hp, Except.isOk, Except.toBool]
  | raced hx hp hrt =>
      simp [Env.admits, Env.begins_of_runtime hrt, hx, hp, Except.isOk, Except.toBool,
        UnaryOutcome.observe_effect]

/-! ## Which request is made -/

/-- The request of a batch with a close: its metadata with the plugin's pairs, and its
message. -/
def BatchOps.request (T : Tonic) (env : Env) (b : BatchOps) (ps : Pairs) (d : I64) :
    Request Bytes :=
  buildRequest T env b.sendMetadata ps (b.sendMessage.getD []) d

/-- The RPCs a batch with a close makes: a unary one if it receives message and status
together and a server stream otherwise, unless a check fails. -/
def BatchOps.halfClosedRpcs (T : Tonic) (env : Env) (b : BatchOps) (ps : Pairs) (c : GrpcCall) :
    List Rpc :=
  if b.recvMessage && b.recvStatus then
    if env.admits T c && env.unary.dispatched then [.unary (b.request T env ps c.deadlineUsec)]
    else []
  else if env.admits T c then [.serverStreaming (b.request T env ps c.deadlineUsec)] else []

/-- A batch with send operations brings its own request. -/
theorem Requested.of_hasSendOps {b : BatchOps} {w w' : World} {md ps : Pairs}
    {msg : Option Bytes} (h : Requested env b w md ps msg w') (hsend : b.hasSendOps = true) :
    md = b.sendMetadata ∧ msg = b.sendMessage ∧ PluginRan env w (.ok ps) w' := by
  cases h with
  | own _ hp => exact ⟨rfl, rfl, hp⟩
  | buffered hno => simp [hsend] at hno

/-- **The request of a half-closed dispatch.**  With no stream active, a batch with a close
makes the request of its own metadata and message and the plugin's pairs, on every path. -/
theorem Dispatched.rpcs_halfClosed {b : BatchOps} {w w' : World}
    {r : Except PhpException BatchResult}
    {ps : Pairs} (h : Dispatched T env b w r w') (hcons : b.Consistent)
    (hst : w.call.streamState = none) (hclose : b.sendClose = true)
    (hclosed : w.call.sendClosed = true) (hps : env.pluginPairs w.call = .ok ps) :
    w'.rpcs = w.rpcs ++ b.halfClosedRpcs T env ps w.call := by
  have hsend : b.hasSendOps = true := by simp [hcons.send, hclose]
  cases h with
  | notForwarded h | forwarded h | read h | notRead h => simp [hst] at h
  | writePluginFailed _ _ h | writeNotStarted _ _ h | write _ _ h | buffered _ _ h =>
      simp [hclose] at h
  | bufferPluginFailed _ _ _ hp => exact absurd hps (hp.pluginPairs_ne ps)
  | @split qs _ w₁ _ _ hrecv _ hp hs =>
      obtain rfl := hp.pairs_eq hps
      have hpat : (b.recvMessage && b.recvStatus) = false := by
        have := hcons.recv
        simp_all
      have hadmits : env.admits T (w₁.extendPending qs).takePendingMetadata.takePendingMessage.call
          = env.admits T w.call := by
        simp only [Env.admits, World.takePendingMessage, World.takePendingMetadata,
          World.extendPending, World.mapCall_call, hp.call_eq]
        rfl
      have hrequest : serverRpc T env (b.sendMetadata ++ qs) [] b.sendMessage w₁.call.deadlineUsec
          = .serverStreaming (b.request T env qs w.call.deadlineUsec) := by
        rw [serverRpc, buildRequest_append, hp.call_eq]
        rfl
      have hr : w₁.rpcs = w.rpcs := hp.rpcs_eq
      rw [hs.rpcs_eq, hadmits, BatchOps.halfClosedRpcs, hpat, ← hrequest, ← hr]
      rfl
  | freshPluginFailed _ _ _ hp => exact absurd hps (hp.pluginPairs_ne ps)
  | @unary md qs msg _ w₁ _ _ _ hq hpat he =>
      obtain ⟨rfl, rfl, hp⟩ := hq.of_hasSendOps hsend
      obtain rfl := hp.pairs_eq hps
      have hpat : (b.recvMessage && b.recvStatus) = true := by simpa [hclosed] using hpat
      rw [he.rpcs_eq, hp.rpcs_eq, hp.call_eq, BatchOps.halfClosedRpcs, hpat, if_pos rfl]
      rfl
  | serverNotStarted _ _ hq hpat _ hs =>
      obtain ⟨rfl, rfl, hp⟩ := hq.of_hasSendOps hsend
      obtain rfl := hp.pairs_eq hps
      rw [hs.rpcs_eq, hp.rpcs_eq, hp.call_eq, BatchOps.halfClosedRpcs, hpat]
      rfl
  | server _ _ hq hpat _ hs _ =>
      obtain ⟨rfl, rfl, hp⟩ := hq.of_hasSendOps hsend
      obtain rfl := hp.pairs_eq hps
      refine hs.rpcs_eq.trans ?_
      rw [hp.rpcs_eq, hp.call_eq, BatchOps.halfClosedRpcs, hpat]
      rfl

/-- The RPCs of a step whose batch has a close. -/
theorem rpcs_step_halfClosed {w : World} {ops : ZendHashTable} {b : BatchOps} {ps : Pairs}
    (ha : Admitted w.call ops b) (hst : w.call.streamState = none) (hclose : b.sendClose = true)
    (hps : env.pluginPairs w.call = .ok ps) :
    (step T w (.startBatch env ops)).rpcs = w.rpcs ++ b.halfClosedRpcs T env ps w.call := by
  have hclosed : (w.mapCall (·.accept b)).call.sendClosed = true := by
    simp [GrpcCall.accept, hclose]
  have hdispatched : ∀ {r w'}, Dispatched T env b (w.mapCall (·.accept b)) r w' →
      w'.rpcs = w.rpcs ++ b.halfClosedRpcs T env ps w.call :=
    fun h ↦ h.rpcs_halfClosed ha.consistent hst hclose hclosed hps
  match hd : dispatchBatch T env b (w.mapCall (·.accept b)) with
  | (.ok r, w') =>
      rw [step_of_dispatch_ok ha hd]
      simpa using hdispatched (dispatchBatch_dispatched ha.consistent ha.hasOps hd)
  | (.error e, w') =>
      rw [step_of_dispatch_error ha hd]
      simpa using hdispatched (dispatchBatch_dispatched ha.consistent ha.hasOps hd)

/-! ## The three paths -/

/-- The metadata, the message and the close, and receive operations that include the initial
metadata but not the status. -/
def BatchOps.startReading (md : Pairs) (m : Bytes) (message : Bool) : BatchOps :=
  { start md m with
    recvInitialMetadata := true
    recvMessage := message
    hasRecvOps := true }

/-- The metadata of a request in which the last valid pair wins, among the user's pairs
followed by the plugin's. -/
structure LastWins (T : Tonic) (map : MetadataMap) (user plugin : Pairs) : Prop where
  /-- Each name has the value of the last pair for it whose key and value parse. -/
  values_eq : ∀ name, map.values name = (lastValue T (user ++ plugin) name).toList
  /-- A pair of the plugin overrides the pairs of the user. -/
  plugin_overrides : ∀ name val, lastValue T plugin name = some val → map.values name = [val]
  /-- Pairs that do not parse remove nothing. -/
  unparsable : ∀ ps qs, user ++ plugin = ps ++ qs → (∀ q ∈ qs, parsePair T q = none) →
    ∀ name, map.values name = (lastValue T ps name).toList

/-- In the metadata of a request the last valid pair wins. -/
theorem lastWins_requestMetadata (user plugin : Pairs) :
    LastWins T (requestMetadata T user plugin) user plugin := by
  have hvalues : ∀ name, (requestMetadata T user plugin).values name
      = (lastValue T (user ++ plugin) name).toList := by
    intro name
    rw [values_requestMetadata]
    simp only [lastValue, Multimap.lastValid_append]
  refine ⟨hvalues, ?_, ?_⟩
  · intro name val hval
    rw [values_requestMetadata, hval]
    rfl
  · intro ps qs heq hqs name
    have hnone : lastValue T qs name = none := by
      rw [lastValue, Multimap.lastValid, List.filterMap_eq_nil_iff.mpr hqs]
      rfl
    rw [hvalues, heq]
    simp only [lastValue] at hnone ⊢
    rw [Multimap.lastValid_append, hnone]
    rfl

end GrpcPhp
