import GrpcPhp.Stream.Refinement

/-!
# Batches are atomic

Between two batches nobody can tell that the task runs beside PHP.  Whatever the interleaving,
the call object and the log are those of executing each batch in one step, with answers of the
outside that the channels gave in the meantime.  So what is proved of the runs of
`GrpcPhp/Call` holds for a stream with its task, from the batch on that starts it.

There are three such batches.  A send-only batch with a close starts a server stream and
returns; the first write starts a bidi stream and has a message to send; a receive batch on a
half-closed call starts a server stream and has everything to receive.
-/

namespace GrpcPhp

open Lib Php

variable {T : Tonic} {answer : Answer}

namespace Sys

/-- The state of the system right after a batch of the call has started a stream, when `pre`
was logged so far.  The world is the one before the batch, if it is still in progress. -/
inductive StartedBy (T : Tonic) (answer : Answer) : World → List Event → Sys → Prop
  | /-- The batch has returned. -/
    returned {w : World} {bidi : Bool} {now : I64}
      (hst : w.call.streamState = some (spawnedStreamState bidi)) :
      StartedBy T answer w w.log (.spawn answer bidi w.call w.connectivity .idle now)
  | /-- The first write of a client or bidi stream. -/
    write {w v : World} {env : Env} {ops : ZendHashTable} {b : BatchOps} {m : Bytes} {ps : Pairs}
      {now : I64} (ha : Admitted w.call ops b) (hst : w.call.streamState = none)
      (hrecv : b.hasRecvOps = false) (hclose : b.sendClose = false) (hm : b.sendMessage = some m)
      (hp : PluginRan env (w.mapCall (·.accept b)).takePendingMetadata (.ok ps) v)
      (hx : deadlineAlreadyExpired v.call.deadlineUsec env.nowDispatch = false)
      (hpath : T.path v.call.method = .ok ()) (hrt : env.runtime = .ok ()) :
      StartedBy T answer w
        (v.log ++ [.dispatch (bidiRpc T env w.call.pendingMetadata ps v.call.deadlineUsec)])
        (.spawn answer true v.call v.connectivity (.sending ⟨ops, b⟩ m) now)
  | /-- A receive batch on a half-closed call. -/
    read {w v : World} {env : Env} {ops : ZendHashTable} {b : BatchOps} {md ps : Pairs}
      {msg : Option Bytes} {now : I64} (ha : Admitted w.call ops b)
      (hst : w.call.streamState = none) (hrecv : b.hasRecvOps = true)
      (hq : Requested env b (w.mapCall (·.accept b)) md ps msg v)
      (hpat : (b.recvMessage && b.recvStatus) = false)
      (hclosed : (w.call.accept b).sendClosed = true)
      (hx : deadlineAlreadyExpired v.call.deadlineUsec env.nowDispatch = false)
      (hpath : T.path v.call.method = .ok ()) (hrt : env.runtime = .ok ()) :
      StartedBy T answer w
        (v.log ++ [.dispatch (serverRpc T env md ps msg v.call.deadlineUsec)])
        (.spawn answer false v.call v.connectivity (.headers ⟨ops, b⟩ {}) now)

/-- However a stream was started, the world explains it. -/
theorem StartedBy.explained {w : World} {pre : List Event} {s : Sys}
    (h : StartedBy T answer w pre s) : s.Explained T pre w := by
  cases h with
  | returned hst => exact explained_idle hst
  | write ha hst hrecv hclose hm hp hx hpath hrt =>
      exact explained_write ha hst hrecv hclose hm hp hx hpath hrt
  | read ha hst hrecv hq hpat hclosed hx hpath hrt =>
      exact explained_read ha hst hrecv hq hpat hclosed hx hpath hrt

end Sys

end GrpcPhp
