import GrpcPhp.Call.Step

/-!
# Batches that are rejected

`start_batch` interleaves its checks with what it does: the array is parsed entry by
entry, and a flag of the call is set right after the last check.  `startBatchVia` is its
body statement by statement, where what dispatches the batch is a parameter;
`startBatchVia_dispatchBatch` says that `startBatch`, which makes all checks first, is the
same method.

The parameter also says what it is to fail *before* the dispatch: the outcome is the same
whatever the dispatch would do.  `Rejection` lists the reasons, and
`rejected_leaves_world` is the result: a rejected batch changes nothing at all.
-/

namespace GrpcPhp

open Lib Php

/-! ## The method as it is written -/

/-- The sequencing check of `OP_SEND_INITIAL_METADATA`, and its flag. -/
def trackMetadata (batch : BatchOps) : M PUnit :=
  if batch.hasSendInitialMetadata then do
    if ← Fallible.gets fun w ↦ w.call.initialMetadataSent then Fallible.throw tooManyOperations
    else Fallible.modify (·.mapCall fun c ↦ { c with initialMetadataSent := true })
  else pure ⟨⟩

/-- `if batch.send_close { self.send_closed = true; }`. -/
def trackClose (batch : BatchOps) : M PUnit :=
  if batch.sendClose then Fallible.modify (·.mapCall fun c ↦ { c with sendClosed := true })
  else pure ⟨⟩

/-- `if recv_status { self.finished = true; }`. -/
def trackStatus (batch : BatchOps) : M PUnit :=
  if batch.recvStatus then Fallible.modify (·.mapCall fun c ↦ { c with finished := true })
  else pure ⟨⟩

/-- `start_batch`, statement by statement, with the dispatch as a parameter. -/
def startBatchVia (dispatch : BatchOps → M BatchResult) (ops : ZendHashTable) : M BatchResult := do
  if ← Fallible.gets fun w ↦ w.call.channelClosed then
    Fallible.throw (runtimeException "startBatch Error. Channel is closed")
  else if ← Fallible.gets fun w ↦ w.call.cancelToken then
    Fallible.throw (GrpcError.status 1 "Call has been cancelled").toPhp
  else do
    let batch ← Fallible.lift (parseOps ops)
    if !batch.hasSendOps && !batch.hasRecvOps then pure {}
    else if ← Fallible.gets fun w ↦ w.call.finished then Fallible.throw tooManyOperations
    else do
      trackMetadata batch
      trackClose batch
      let r ← dispatch batch
      trackStatus batch
      pure (r.ack batch)

/-! ## Why a batch is rejected -/

/-- The reasons for which a batch is rejected, each with its exception. -/
inductive Rejection (c : GrpcCall) (ops : ZendHashTable) : PhpException → Prop
  | /-- The channel the call was created from has been closed. -/
    closed (h : c.channelClosed = true) :
      Rejection c ops (runtimeException "startBatch Error. Channel is closed")
  | /-- The call has been cancelled. -/
    cancelled (hopen : c.channelClosed = false) (h : c.cancelToken = true) :
      Rejection c ops (GrpcError.status 1 "Call has been cancelled").toPhp
  | /-- An entry of the array, wherever it stands, is no operation or has no good value. -/
    malformed {e : PhpException} {pre post : ZendHashTable} {entry : ArrayKey × Zval} {b : BatchOps}
      (hopen : c.channelClosed = false) (hlive : c.cancelToken = false)
      (hops : ops = pre ++ entry :: post) (hpre : parseOps pre = .ok b)
      (h : parseOp b entry = .error e) : Rejection c ops e
  | /-- The status has been delivered. -/
    afterStatus {b : BatchOps} (hopen : c.channelClosed = false) (hlive : c.cancelToken = false)
      (hp : parseOps ops = .ok b) (hops : (b.hasSendOps || b.hasRecvOps) = true)
      (h : c.finished = true) : Rejection c ops tooManyOperations
  | /-- The initial metadata has been sent before. -/
    secondMetadata {b : BatchOps} (hopen : c.channelClosed = false) (hlive : c.cancelToken = false)
      (hp : parseOps ops = .ok b) (hops : (b.hasSendOps || b.hasRecvOps) = true)
      (hfin : c.finished = false) (hmd : b.hasSendInitialMetadata = true)
      (h : c.initialMetadataSent = true) : Rejection c ops tooManyOperations

theorem noOps_eq_false_iff {b : BatchOps} :
    (!b.hasSendOps && !b.hasRecvOps) = false ↔ (b.hasSendOps || b.hasRecvOps) = true := by
  cases b.hasSendOps <;> cases b.hasRecvOps <;> simp

/-- The checks fail for these reasons and no others. -/
theorem admission_eq_error_iff {c : GrpcCall} {ops : ZendHashTable} {e : PhpException} :
    admission c ops = .error e ↔ Rejection c ops e := by
  constructor
  · intro h
    unfold admission at h
    split at h
    · next hclosed =>
      cases h
      exact .closed hclosed
    · next hopen =>
      have hopen : c.channelClosed = false := by simpa using hopen
      split at h
      · next hcancel =>
        cases h
        exact .cancelled hopen hcancel
      · next hlive =>
        have hlive : c.cancelToken = false := by simpa using hlive
        cases hp : parseOps ops with
        | error x =>
            obtain ⟨pre, entry, post, b, rfl, hpre, hx⟩ := foldlM_eq_error_iff.mp hp
            have hxe : x = e := by simpa [hp, bind, Except.bind] using h
            exact .malformed hopen hlive rfl hpre (hxe ▸ hx)
        | ok b =>
            simp only [hp, bind, Except.bind] at h
            split at h
            · cases h
            · next hops =>
              have hops := noOps_eq_false_iff.mp (by simpa using hops)
              split at h
              · next hfin =>
                cases h
                exact .afterStatus hopen hlive hp hops hfin
              · next hfin =>
                split at h
                · next hmd =>
                  rw [Bool.and_eq_true] at hmd
                  cases h
                  exact .secondMetadata hopen hlive hp hops (by simpa using hfin) hmd.1 hmd.2
                · cases h
  · intro h
    cases h with
    | closed h => simp [admission, h]
    | cancelled hopen h => simp [admission, hopen, h]
    | malformed hopen hlive hops hpre h =>
        have hp : parseOps ops = .error e := foldlM_eq_error_iff.mpr ⟨_, _, _, _, hops, hpre, h⟩
        simp [admission, hopen, hlive, hp, bind, Except.bind]
    | afterStatus hopen hlive hp hops h =>
        simp [admission, hopen, hlive, hp, noOps_eq_false_iff.mpr hops, h, bind, Except.bind]
    | secondMetadata hopen hlive hp hops hfin hmd h =>
        simp [admission, hopen, hlive, hp, noOps_eq_false_iff.mpr hops, hfin, hmd, h, bind,
          Except.bind]

/-! ## The checks come first -/

section Track

variable (b : BatchOps) (w : World)

theorem trackStatus_apply : trackStatus b w = (.ok ⟨⟩, w.mapCall (·.finish b)) := by
  unfold trackStatus
  cases hs : b.recvStatus <;> simp [World.mapCall, GrpcCall.finish, hs]

theorem trackMetadata_error
    (hmd : (b.hasSendInitialMetadata && w.call.initialMetadataSent) = true) :
    trackMetadata b w = (.error tooManyOperations, w) := by
  rw [Bool.and_eq_true] at hmd
  simp [trackMetadata, Fallible.bind_apply, hmd.1, hmd.2]

/-- The two flags set before the dispatch are those of `GrpcCall.accept`. -/
theorem trackMetadata_trackClose_apply
    (hmd : (b.hasSendInitialMetadata && w.call.initialMetadataSent) = false) :
    (trackMetadata b >>= fun _ ↦ trackClose b) w = (.ok ⟨⟩, w.mapCall (·.accept b)) := by
  cases hs : b.hasSendInitialMetadata with
  | false =>
      cases hc : b.sendClose <;>
        simp [trackMetadata, trackClose, World.mapCall, GrpcCall.accept, Fallible.bind_apply, hs,
          hc]
  | true =>
      have hfirst : w.call.initialMetadataSent = false := by simpa [hs] using hmd
      cases hc : b.sendClose <;>
        simp [trackMetadata, trackClose, World.mapCall, GrpcCall.accept, Fallible.bind_apply, hs,
          hc, hfirst]

end Track

/-- What is left of the method once the checks are made. -/
def dispatchAdmitted (dispatch : BatchOps → M BatchResult) (b : BatchOps) : M BatchResult := do
  Fallible.modify (·.mapCall (·.accept b))
  let r ← dispatch b
  Fallible.modify (·.mapCall (·.finish b))
  pure (r.ack b)

section Via

variable {dispatch : BatchOps → M BatchResult} {ops : ZendHashTable} {w : World} {b : BatchOps}

/-- The method once the array is parsed. -/
theorem startBatchVia_parsed (hopen : w.call.channelClosed = false)
    (hlive : w.call.cancelToken = false) (hp : parseOps ops = .ok b)
    (hops : (b.hasSendOps || b.hasRecvOps) = true) : startBatchVia dispatch ops w =
      if w.call.finished then (.error tooManyOperations, w)
      else ((trackMetadata b >>= fun _ ↦ trackClose b) >>= fun _ ↦ dispatch b >>= fun r ↦
        trackStatus b >>= fun _ ↦ pure (r.ack b)) w := by
  simp only [startBatchVia, Fallible.bind_apply, Fallible.gets_apply, hopen, hlive,
    Bool.false_eq_true, if_false, Fallible.lift_apply, hp, noOps_eq_false_iff.mpr hops]
  cases w.call.finished with
  | true => rfl
  | false =>
      simp only [Bool.false_eq_true, if_false, Fallible.bind_apply]
      cases trackMetadata b w with
      | mk r w₁ => cases r <;> rfl

theorem startBatchVia_rejected {e : PhpException} (h : Rejection w.call ops e) :
    startBatchVia dispatch ops w = (.error e, w) := by
  cases h with
  | closed h => simp [startBatchVia, Fallible.bind_apply, h]
  | cancelled hopen h => simp [startBatchVia, Fallible.bind_apply, hopen, h]
  | malformed hopen hlive hops hpre h =>
      have hp : parseOps ops = .error e := foldlM_eq_error_iff.mpr ⟨_, _, _, _, hops, hpre, h⟩
      simp [startBatchVia, Fallible.bind_apply, hopen, hlive, hp]
  | afterStatus hopen hlive hp hops h =>
      rw [startBatchVia_parsed hopen hlive hp hops, h, if_pos rfl]
  | secondMetadata hopen hlive hp hops hfin hmd h =>
      rw [startBatchVia_parsed hopen hlive hp hops, hfin, if_neg Bool.false_ne_true]
      have ht := trackMetadata_error _ w (by rw [hmd, h]; rfl)
      exact Fallible.bind_error (Fallible.bind_error ht)

theorem startBatchVia_empty (h : admission w.call ops = .ok none) :
    startBatchVia dispatch ops w = (.ok {}, w) := by
  obtain ⟨b, hp, hsend, hrecv⟩ := admission_none h
  have hopen : w.call.channelClosed = false := by
    by_contra hc
    rw [admission_eq_error_iff.mpr (.closed (by simpa using hc))] at h
    cases h
  have hlive : w.call.cancelToken = false := by
    by_contra hc
    rw [admission_eq_error_iff.mpr (.cancelled hopen (by simpa using hc))] at h
    cases h
  simp [startBatchVia, Fallible.bind_apply, hopen, hlive, hp, hsend, hrecv]

theorem startBatchVia_admitted (h : Admitted w.call ops b) :
    startBatchVia dispatch ops w = dispatchAdmitted dispatch b w := by
  have hmd : (b.hasSendInitialMetadata && w.call.initialMetadataSent) = false := by
    cases hb : b.hasSendInitialMetadata with
    | false => rfl
    | true => simpa using h.firstMetadata hb
  rw [startBatchVia_parsed h.channelOpen h.notCancelled h.parsed h.hasOps, h.notFinished,
    if_neg Bool.false_ne_true, Fallible.bind_ok (trackMetadata_trackClose_apply b w hmd),
    dispatchAdmitted, Fallible.bind_ok (Fallible.modify_apply _ _)]
  refine Fallible.bind_congr fun r w' _ ↦ ?_
  rw [Fallible.bind_ok (trackStatus_apply b w'), Fallible.bind_ok (Fallible.modify_apply _ _)]

/-- Dispatches that agree on what is admitted are interchangeable. -/
theorem startBatchVia_congr {dispatch' : BatchOps → M BatchResult}
    (h : ∀ b, Admitted w.call ops b →
      dispatch b (w.mapCall (·.accept b)) = dispatch' b (w.mapCall (·.accept b))) :
    startBatchVia dispatch ops w = startBatchVia dispatch' ops w := by
  cases ha : admission w.call ops with
  | error e =>
      have hrej := admission_eq_error_iff.mp ha
      rw [startBatchVia_rejected hrej, startBatchVia_rejected hrej]
  | ok ob =>
      cases ob with
      | none => rw [startBatchVia_empty ha, startBatchVia_empty ha]
      | some b =>
          have had := admission_some ha
          rw [startBatchVia_admitted had, startBatchVia_admitted had]
          simp only [dispatchAdmitted, Fallible.bind_ok (Fallible.modify_apply _ _)]
          rw [Fallible.bind_apply, Fallible.bind_apply, h b had]

end Via

/-- **The checks of the source come first**: `startBatch` is `start_batch` as it is
written. -/
theorem startBatchVia_dispatchBatch (T : Tonic) (env : Env) :
    startBatchVia (dispatchBatch T env) = startBatch T env := by
  funext ops w
  have hs : startBatch T env ops w = (match admission w.call ops with
      | .error e => (.error e, w)
      | .ok none => (.ok {}, w)
      | .ok (some b) => dispatchAdmitted (dispatchBatch T env) b w) := by
    simp only [startBatch, Fallible.bind_apply, Fallible.gets_apply, Fallible.lift_apply]
    cases admission w.call ops with
    | error e => rfl
    | ok ob => cases ob <;> rfl
  rw [hs]
  cases ha : admission w.call ops with
  | error e => exact startBatchVia_rejected (admission_eq_error_iff.mp ha)
  | ok ob =>
      cases ob with
      | none => exact startBatchVia_empty ha
      | some b => exact startBatchVia_admitted (admission_some ha)

/-! ## Nothing happens -/

/-- The batch fails with `e` before it is dispatched and leaves the world `w'`: it does so
whatever the dispatch would have done. -/
def FailsBeforeDispatch (ops : ZendHashTable) (w : World) (e : PhpException) (w' : World) : Prop :=
  ∀ dispatch, startBatchVia dispatch ops w = (.error e, w')

/-- **A batch that is rejected has no effect.**  It fails before its dispatch exactly for
the reasons above; then the world is as it was: every field of the call, the state of its
channel, and everything done to the outside. -/
theorem rejected_leaves_world (T : Tonic) (env : Env) (ops : ZendHashTable) (w : World)
    (e : PhpException) :
    (Rejection w.call ops e ↔ ∃ w', FailsBeforeDispatch ops w e w') ∧
      ∀ w', FailsBeforeDispatch ops w e w' → w' = w ∧ startBatch T env ops w = (.error e, w) := by
  have hfails : ∀ w', FailsBeforeDispatch ops w e w' → Rejection w.call ops e := by
    intro w' h
    rw [← admission_eq_error_iff]
    cases ha : admission w.call ops with
    | error e' =>
        have hrej := (startBatchVia_rejected (admission_eq_error_iff.mp ha)).symm.trans
          (h (fun _ ↦ pure {}))
        cases hrej
        rfl
    | ok ob =>
        -- a dispatch that always returns would be seen
        cases ob with
        | none => cases (startBatchVia_empty ha).symm.trans (h (fun _ ↦ pure {}))
        | some b =>
            cases (startBatchVia_admitted (admission_some ha)).symm.trans (h (fun _ ↦ pure {}))
  refine ⟨⟨fun h ↦ ⟨w, fun _ ↦ startBatchVia_rejected h⟩, fun ⟨w', h⟩ ↦ hfails w' h⟩, fun w' h ↦ ?_⟩
  have hrej : startBatchVia (dispatchBatch T env) ops w = (.error e, w) :=
    startBatchVia_rejected (hfails w' h)
  have hw : w' = w := (Prod.ext_iff.mp ((h _).symm.trans hrej)).2
  rw [startBatchVia_dispatchBatch] at hrej
  exact ⟨hw, hrej⟩

end GrpcPhp
