import GrpcPhp.Call.Rejected

/-!
# What a batch can raise

ext-grpc throws a `RuntimeException` for exactly one reason: the channel was closed.  In this
extension the check for it is the first statement of `start_batch`, and everything after it
raises other classes.  `Fallible.Raises` bounds the exceptions of each method by the methods
it calls, so that there is one lemma per method and none looks at a state.
-/

namespace GrpcPhp

open Lib Php Fallible

variable {T : Tonic} {env : Env}

/-- The exception of `startBatch` on a closed channel. -/
def channelClosedException : PhpException := runtimeException "startBatch Error. Channel is closed"

/-- Any class but that of a closed resource. -/
def Ordinary (e : PhpException) : Prop := e.cls ≠ .runtimeException

theorem GrpcError.ordinary (e : GrpcError) : Ordinary e.toPhp := fun h ↦ by cases h

theorem ordinary_default (text : String) : Ordinary (.default text) := fun h ↦ by cases h

theorem ordinary_invalidArgument (text : String) : Ordinary (invalidArgument text) :=
  fun h ↦ by cases h

/-! ## The dispatch -/

theorem raises_getRuntime : (getRuntime env).Raises Ordinary := by
  intro w e w' h
  cases hrt : env.runtime with
  | ok u => rw [getRuntime_ok hrt] at h; cases h
  | error text =>
      rw [getRuntime_error hrt] at h
      cases h
      exact GrpcError.ordinary _

theorem raises_pump {α : Type} {m : M α} (h : m.Raises Ordinary) :
    (getRuntime env >>= fun _ ↦ pump env >>= fun _ ↦ m).Raises Ordinary :=
  raises_getRuntime.bind fun _ ↦ raises_getRuntime.bind fun _ ↦ h

theorem raises_pluginMetadata : (pluginMetadata env).Raises Ordinary := by
  refine (raises_gets _).bind fun plugin ↦ ?_
  cases plugin with
  | none => exact raises_pure _
  | some p =>
      refine (raises_gets _).bind fun method ↦ ?_
      split
      · exact raises_throw (GrpcError.ordinary _)
      · exact (raises_modify _).bind fun _ ↦ raises_pure _

theorem raises_startStream (bidi : Bool) (rpc : I64 → Rpc) :
    (startStream T env bidi rpc).Raises Ordinary := by
  refine raises_pump ((raises_gets _).bind fun c ↦ .ite (raises_modify _) ?_)
  split
  · exact raises_throw (GrpcError.ordinary _)
  · exact (raises_modify _).bind fun _ ↦ raises_modify _

theorem raises_sendStreamMessage (m : Bytes) : (sendStreamMessage env m).Raises Ordinary := by
  refine raises_getRuntime.bind fun _ ↦ (raises_gets _).bind fun st ↦ ?_
  cases st with
  | none => exact raises_throw (ordinary_default _)
  | some st =>
      exact .ite (raises_throw (ordinary_default _))
        (.ite (raises_modify _) (raises_throw (ordinary_default _)))

theorem ordinary_of_mapError {α : Type} {x : Except GrpcError α} {e : PhpException}
    (h : x.mapError GrpcError.toPhp = .error e) : Ordinary e := by
  cases x with
  | error e' =>
      cases h
      exact GrpcError.ordinary e'
  | ok a => cases h

theorem raises_executeCall (md ps : Pairs) (msg : Option Bytes) :
    (executeCall T env md ps msg).Raises Ordinary := by
  intro w e w' h
  have he := executeCall_executed h
  generalize hr : Except.error e = r at he
  cases he with
  | expired => cases hr
  | noRuntime | badPath =>
      cases hr
      exact GrpcError.ordinary _
  | raced => exact ordinary_of_mapError hr.symm

theorem raises_buildStreamResult (b : BatchOps) : (buildStreamResult T env b).Raises Ordinary := by
  refine raises_getRuntime.bind fun _ ↦ (raises_gets _).bind fun c ↦ ?_
  split
  · exact raises_throw (ordinary_default _)
  · exact (raises_modify _).bind fun _ ↦ raises_pure _

theorem raises_forward (msg : Option Bytes) (close : Bool) :
    (forward env msg close).Raises Ordinary := by
  have hclose : Raises Ordinary (if close = true then closeStreamSend else pure PUnit.unit) :=
    .ite (raises_modify _) (raises_pure _)
  cases msg with
  | none => exact hclose
  | some m => exact (raises_sendStreamMessage m).bind fun _ ↦ hclose

theorem raises_startWrite (b : BatchOps) : (startWrite T env b).Raises Ordinary := by
  refine (raises_gets _).bind fun md ↦ (raises_modify _).bind fun _ ↦ ?_
  refine raises_pluginMetadata.bind fun ps ↦ (raises_startStream _ _).bind fun _ ↦ ?_
  dsimp only
  split
  · exact (raises_sendStreamMessage _).bind fun _ ↦ raises_pure _
  · exact raises_pure _

theorem raises_bufferSend (b : BatchOps) : (bufferSend T env b).Raises Ordinary := by
  refine (raises_modify _).bind fun _ ↦ raises_pluginMetadata.bind fun ps ↦ ?_
  refine (raises_modify _).bind fun _ ↦ .ite ?_ (raises_pure _)
  refine (raises_gets _).bind fun c ↦ (raises_modify _).bind fun _ ↦ ?_
  exact (raises_startStream _ _).bind fun _ ↦ raises_pure _

theorem raises_dispatchRequest (b : BatchOps) (md ps : Pairs) (msg : Option Bytes) :
    (dispatchRequest T env b md ps msg).Raises Ordinary := by
  have hunary : (unaryResult T env b md ps msg).Raises Ordinary :=
    (raises_executeCall md ps msg).bind fun _ ↦ raises_pure _
  refine .ite hunary ((raises_gets _).bind fun closed ↦ .ite ?_ hunary)
  exact (raises_startStream _ _).bind fun _ ↦ raises_buildStreamResult _

theorem raises_dispatchFresh (b : BatchOps) : (dispatchFresh T env b).Raises Ordinary :=
  .ite (raises_pluginMetadata.bind fun _ ↦ raises_dispatchRequest _ _ _ _)
    ((raises_gets _).bind fun _ ↦ (raises_modify _).bind fun _ ↦ raises_dispatchRequest _ _ _ _)

/-- No dispatch raises the exception of a closed channel. -/
theorem raises_dispatchBatch (b : BatchOps) : (dispatchBatch T env b).Raises Ordinary := by
  refine .ite ?_ ((raises_gets _).bind fun st ↦ .ite ?_ (raises_dispatchFresh b))
  · refine (raises_gets _).bind fun st ↦ .ite ?_ (.ite (raises_startWrite b) (raises_bufferSend b))
    exact (raises_forward _ _).bind fun _ ↦ raises_pure _
  · exact (raises_forward _ _).bind fun _ ↦ raises_buildStreamResult b

/-! ## The checks before it -/

theorem ordinary_parseSendValues {k : String} {ht : ZendHashTable} {e : PhpException}
    (h : parseSendValues k ht = .error e) : Ordinary e := by
  induction ht with
  | nil => cases h
  | cons entry rest ih =>
      obtain ⟨key, v⟩ := entry
      unfold parseSendValues at h
      split at h
      · cases h
        exact ordinary_invalidArgument _
      · cases hr : parseSendValues k rest with
        | error e' =>
            rw [hr] at h
            cases h
            exact ih hr
        | ok ps =>
            rw [hr] at h
            cases h

theorem ordinary_parseSendMetadata {ht : ZendHashTable} {e : PhpException}
    (h : parseSendMetadata ht = .error e) : Ordinary e := by
  induction ht with
  | nil => cases h
  | cons entry rest ih =>
      obtain ⟨key, v⟩ := entry
      unfold parseSendMetadata at h
      split at h
      · cases h
        exact ordinary_invalidArgument _
      · split at h
        · cases h
          exact ordinary_invalidArgument _
        · split at h
          · cases h
            exact ordinary_invalidArgument _
          · rcases cases_of_bind_eq_error h with hv | ⟨ps, -, h⟩
            · exact ordinary_parseSendValues hv
            · rcases cases_of_bind_eq_error h with hr | ⟨qs, -, h⟩
              · exact ih hr
              · cases h

theorem ordinary_parseKey {key : ArrayKey} {e : PhpException} (h : parseKey key = .error e) :
    Ordinary e := by
  unfold parseKey at h
  split at h
  · cases h
    exact GrpcError.ordinary _
  · split at h
    · cases h
    · cases h
      exact ordinary_invalidArgument _

theorem ordinary_parseMessageOp {val : Zval} {e : PhpException}
    (h : parseMessageOp val = .error e) : Ordinary e := by
  unfold parseMessageOp at h
  repeat' split at h
  all_goals first
    | cases h
      exact ordinary_invalidArgument _
    | cases h

theorem ordinary_parseMetadataOp {val : Zval} {e : PhpException}
    (h : parseMetadataOp val = .error e) : Ordinary e := by
  unfold parseMetadataOp at h
  split at h
  · cases h
    exact ordinary_invalidArgument _
  · exact ordinary_parseSendMetadata h

theorem ordinary_parseOp {b : BatchOps} {entry : ArrayKey × Zval} {e : PhpException}
    (h : parseOp b entry = .error e) : Ordinary e := by
  unfold parseOp at h
  rcases cases_of_bind_eq_error h with hk | ⟨op, -, h⟩
  · exact ordinary_parseKey hk
  · cases op with
    | sendInitialMetadata =>
        rcases cases_of_bind_eq_error h with hm | ⟨md, -, h⟩
        · exact ordinary_parseMetadataOp hm
        · cases h
    | sendMessage =>
        rcases cases_of_bind_eq_error h with hm | ⟨m, -, h⟩
        · exact ordinary_parseMessageOp hm
        · cases h
    | sendCloseFromClient | recvInitialMetadata | recvMessage | recvStatusOnClient => cases h

/-- A batch is rejected with the exception of a closed channel exactly if it is closed. -/
theorem Rejection.eq_closed {c : GrpcCall} {ops : ZendHashTable} {e : PhpException}
    (h : Rejection c ops e) : c.channelClosed = true ∧ e = channelClosedException ∨ Ordinary e := by
  cases h with
  | closed h => exact .inl ⟨h, rfl⟩
  | cancelled => exact .inr (GrpcError.ordinary _)
  | malformed _ _ _ _ h => exact .inr (ordinary_parseOp h)
  | afterStatus => exact .inr fun h ↦ by cases h
  | secondMetadata => exact .inr fun h ↦ by cases h

/-- **`startBatch` raises the exception of a closed channel exactly if the channel the call was
made from is closed.** -/
theorem startBatch_closed_iff (T : Tonic) (env : Env) (ops : ZendHashTable) (w : World) :
    (startBatch T env ops w).1 = .error channelClosedException ↔ w.call.channelClosed = true := by
  constructor
  · intro h
    have hnot : ¬ Ordinary channelClosedException := fun ho ↦ ho rfl
    have hrun : startBatch T env ops w
        = (.error channelClosedException, (startBatch T env ops w).2) :=
      Prod.ext h rfl
    rcases bind_inv hrun with ⟨c, w₁, hgets, hrun⟩ | ⟨e, hgets, -⟩
    · cases hgets
      rcases bind_inv hrun with ⟨batch, w₂, hlift, hrun⟩ | ⟨e, hlift, he⟩
      · cases batch with
        | none => cases hrun
        | some b =>
            -- the batch was admitted, and nothing after that raises this exception
            have hdispatch : (dispatchBatch T env b).Raises Ordinary := raises_dispatchBatch b
            have hraises := (raises_modify fun w : World ↦ w.mapCall (·.accept b)).bind fun _ ↦
              hdispatch.bind fun r ↦
                (raises_modify fun w : World ↦ w.mapCall (·.finish b)).bind fun _ ↦
                  raises_pure (r.ack b)
            exact absurd (hraises _ _ _ hrun) hnot
      · cases he
        have ha : admission w.call ops = .error channelClosedException := congrArg Prod.fst hlift
        rcases (admission_eq_error_iff.mp ha).eq_closed with ⟨hclosed, -⟩ | ho
        · exact hclosed
        · exact absurd ho hnot
    · cases hgets
  · intro h
    simp [startBatch, admission, h, Fallible.bind_apply, channelClosedException]

end GrpcPhp
