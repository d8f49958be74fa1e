import GrpcPhp.Call.Returned
import GrpcPhp.Stream.Delivery
import GrpcPhp.Stream.Refinement

/-!
# The two forms of a unary call

A unary call can be made in one batch, which runs `execute_call`, or split into a batch
that sends and one that receives, which goes through a task and its channels.  The two are
meant to be interchangeable.

What the split form returns is a function of the reply, whatever the schedule
(`received_eq_split`), and so is what the single form returns.  They are compared in
`single_agrees_split_iff`: the single form drops the trailers of a successful call and the
headers of a failed one, and has no message if it has an error.
-/

namespace GrpcPhp

open Lib Php

variable {T : Tonic}

/-! ## Replies -/

/-- What the server replies to a unary call. -/
inductive Reply where
  /-- A status and nothing else. -/
  | rejected (status : Status)
  /-- Headers, at most one message, and the OK status with trailers. -/
  | ok (headers : MetadataMap) (message : Option Bytes) (trailers : MetadataMap)
  /-- Headers, at most one message, and an error. -/
  | error (headers : MetadataMap) (message : Option Bytes) (status : Status)

namespace Reply

/-- The reply as a response stream. -/
def answer : Reply → Answer
  | .rejected status => .rejected status
  | .ok headers message trailers =>
      .response ⟨headers, message.toList, .clean (.ok (some trailers))⟩
  | .error headers message status => .response ⟨headers, message.toList, .error status⟩

/-- What `Grpc::unary` makes of the reply: its status if it is an error, and else the message
with the response metadata.  tonic merges the trailers into that metadata, and the headers into
the metadata of an error that follows them; a reply without a message is an internal error. -/
inductive Unary (T : Tonic) : Reply → UnaryOutcome → Prop
  | rejected {status : Status} : Unary T (.rejected status) (.status status)
  | response {headers trailers md : MetadataMap} {m : Bytes}
      (h : metadataToPhp T trailers = [] → metadataToPhp T md = metadataToPhp T headers) :
      Unary T (.ok headers (some m) trailers) (.response md m)
  | missing {headers trailers : MetadataMap} {status : Status} (h : status.code = .internal) :
      Unary T (.ok headers none trailers) (.status status)
  | error {headers : MetadataMap} {message : Option Bytes} {status status' : Status}
      (hcode : status'.code = status.code) (htext : status'.message = status.message)
      (hmd : metadataToPhp T headers = [] → metadataToPhp T (statusMetadataForPhp T status')
        = metadataToPhp T (statusMetadataForPhp T status)) :
      Unary T (.error headers message status) (.status status')

end Reply

/-- What a result says about the reply. -/
def BatchResult.received (r : BatchResult) :
    Option MetadataEntries × Option (Option Bytes) × Option PhpStatus :=
  (r.metadata, r.message, r.status)

/-- The status property for a status that is not affected by the deadline. -/
def Status.toPhp (T : Tonic) (status : Status) : PhpStatus :=
  ⟨metadataToPhp T (statusMetadataForPhp T status), status.reported.1, status.reported.2⟩

/-- The status of the reply. -/
def Reply.status (T : Tonic) : Reply → PhpStatus
  | .rejected status => status.toPhp T
  | .ok _ _ trailers => ⟨metadataToPhp T trailers, 0, ""⟩
  | .error _ _ status => status.toPhp T

/-! ## Undisturbed runs -/

/-- Steps of a call that PHP leaves alone and whose deadline does not pass. -/
def Sys.undisturbed (s : Sys) : Label → Bool
  | .aside _ | .drop | .driver .deadline | .driver .cancelled => false
  | .tick t => !deadlineAlreadyExpired s.world.call.deadlineUsec t
  | _ => true

/-- An undisturbed run. -/
abbrev Sys.UndisturbedRun (T : Tonic) (answer : Answer) : Sys → List Label → Sys → Prop :=
  Run (Such (pgraph (Sys.step T answer)) fun s l ↦ s.undisturbed l = true)

variable {answer : Answer}

/-- A task that neither the deadline nor the token interrupts. -/
theorem Task.Steps.interrupts_eq_false {t t' : Task} {ctx : Ctx} {a : Act}
    (hs : t.Steps T answer ctx a t') (hd : a ≠ .deadline) (hc : a ≠ .cancelled)
    (h : ∀ c ∈ t.driver.cause, c.interrupts = false) :
    ∀ c ∈ t'.driver.cause, c.interrupts = false := by
  intro c hcause
  cases hs with
  | elapsed | deadline => exact absurd rfl hd
  | cancelled => exact absurd rfl hc
  | notReady | rejected => cases hcause; rfl
  | refused hdr | delivered hdr => exact h c (by rw [hdr]; exact hcause)
  | @finish r =>
      cases hcause
      cases r.finish <;> rfl
  | @ended c' now hdr | @endFailed c' now hdr =>
      refine h c ?_
      rw [hdr]
      cases c' <;> exact hcause
  | _ => cases hcause

namespace Sys

variable {s s' : Sys} {l : Label}

/-- Nothing disturbed the call so far. -/
structure Quiet (s : Sys) : Prop where
  present : s.isGone = false
  inTime : deadlineAlreadyExpired s.world.call.deadlineUsec s.now = false
  cause : ∀ c ∈ s.task.driver.cause, c.interrupts = false

theorem Quiet.frame (h : s.Quiet) (hf : s.Frame s') (hg : s'.isGone = false) : s'.Quiet := by
  obtain ⟨q, -, ht⟩ := hf.task
  refine ⟨hg, ?_, ?_⟩
  · rw [hf.deadlineUsec, hf.now]
    exact h.inTime
  · rw [ht]
    exact h.cause

theorem Quiet.moves (h : s.Quiet) (hl : s.undisturbed l = true) (hm : s.Moves T answer l s') :
    s'.Quiet := by
  cases hm with
  | begins hp he =>
      refine h.frame he.frame ?_
      cases he with
      | passes => simp
      | empty => exact isGone_of_idle hp
      | _ => rfl
  | php ha => exact h.frame ha.frame ha.isGone_eq
  | selects _ ha => exact h.frame ha.frame ha.isGone_eq
  | turns => cases hl
  | drops => cases hl
  | driver hs =>
      refine ⟨h.present, h.inTime, hs.interrupts_eq_false ?_ ?_ h.cause⟩
      · rintro rfl
        cases hl
      · rintro rfl
        cases hl
  | pulls => exact ⟨h.present, h.inTime, h.cause⟩
  | abandons => exact ⟨h.present, h.inTime, h.cause⟩
  | ticks => exact ⟨h.present, by simpa [undisturbed] using hl, h.cause⟩

theorem quiet_of_run {s₀ : Sys} {ls : List Label} (h₀ : s₀.Quiet)
    (h : UndisturbedRun T answer s₀ ls s) : s.Quiet :=
  h.state_invariant h₀ fun _ _ _ hq hs ↦ hq.moves hs.1 (step_moves hs.2)

end Sys

/-! ## What the split form returns -/

/-- The results in the log are those of the batches that returned. -/
theorem World.observe_part {α : Type} (f : BatchResult → Option α) (w : World) :
    w.observe (Event.part f) = w.returns.flatMap fun p ↦ (f p.2).toList := by
  simp only [World.observe, List.flatMap_assoc]
  congr 1
  funext e
  cases e <;> simp

namespace Sys

variable {s : Sys} {start : I64} {rest : List Bytes} {ended : Bool} {c : Cause}

/-- The first message returned is that of the response, and null if it has none. -/
theorem Reads.head_eq {x : Option Bytes} {xs : List (Option Bytes)} (h : s.Reads answer rest ended)
    (hg : s.isGone = false) (he : s.task.Ends answer c) (hc : c.interrupts = false)
    (hreads : s.reads = x :: xs) : x = answer.messages.head? := by
  have hreading := h.reading
  rw [hreads] at hreading
  refine hreading.head_eq fun hend ↦ ?_
  obtain ⟨hq, hpast⟩ := h.dry hg hend
  rw [h.left hg (.inl hend), Task.backlog_eq_unread hq hpast, he.unread hc]

/-- What the terminal event of an undisturbed task amounts to. -/
theorem trailers_eq_status {reply : Reply} {d now : I64} (hof : c.Of reply.answer)
    (hc : c.interrupts = false) (hd : deadlineAlreadyExpired d now = false) :
    (c.trailers T reply.answer.trailers d now).toPhp T = reply.status T := by
  have hst (status : Status) :
      (StreamTrailers.ofStatus T status d now).toPhp T = status.toPhp T := by
    simp [StreamTrailers.toPhp, StreamTrailers.ofStatus, Status.toPhp,
      statusToPhp_eq_reported status hd]
  cases reply with
  | rejected status =>
      cases c with
      | rejected status' =>
          cases hof
          exact hst _
      | notReady => cases hof
      | clean => obtain ⟨_, _, h, -⟩ := hof; cases h
      | error => obtain ⟨_, h, -⟩ := hof; cases h
      | deadline | cancelled => cases hc
  | ok headers message trailers =>
      cases c with
      | clean => rfl
      | notReady => cases hof
      | rejected => cases hof
      | error => obtain ⟨_, h, hf⟩ := hof; cases h; cases hf
      | deadline | cancelled => cases hc
  | error headers message status =>
      cases c with
      | error => obtain ⟨_, h, hf⟩ := hof; cases h; cases hf; exact hst _
      | notReady => cases hof
      | rejected => cases hof
      | clean => obtain ⟨_, _, h, hf⟩ := hof; cases h; cases hf
      | deadline | cancelled => cases hc

/-- **The split form returns the reply**: its headers, its message and its status, in every
undisturbed run. -/
theorem received_eq_split {reply : Reply} {s₀ : Sys} {ls : List Label} {ops : ZendHashTable}
    {r : BatchResult} (h₀ : Initial reply.answer s₀) (hquiet : s₀.Quiet)
    (h : UndisturbedRun T reply.answer s₀ ls s) (hret : s.world.returns = [(ops, r)])
    (ha : r.Answers (.receive true true true)) :
    r.received = (some (metadataToPhp T reply.answer.headers), some reply.answer.messages.head?,
      some (reply.status T)) := by
  have hq := quiet_of_run hquiet h
  have hc := coherent_of_run h₀ h.of_such
  obtain ⟨md, hmd⟩ := Option.isSome_iff_exists.mp ha.metadata
  obtain ⟨x, hx⟩ := Option.isSome_iff_exists.mp ha.message
  obtain ⟨st, hst⟩ := Option.isSome_iff_exists.mp ha.status
  have hlog {α : Type} (f : BatchResult → Option α) :
      s.world.observe (Event.part f) = (f r).toList := by
    simp [World.observe_part, hret]
  -- the status tells that the task has returned
  obtain hrep | ⟨hn, -⟩ := reports_of_run h₀ h.of_such st (by simp [World.statuses, hlog, hst])
  · cases hrep with | @event c now hd hof hu hclock =>
      have hint : c.interrupts = false := hq.cause c (by rw [hd]; rfl)
      have he : s.task.Ends reply.answer c := by
        have hat := hc.task hq.present
        rw [hd] at hat
        cases hat with
        | unready he => exact he
        | returned he => exact he
      obtain ⟨rest, ended, hr⟩ := reads_of_run h₀ h.of_such
      have hheads : md = metadataToPhp T reply.answer.headers :=
        (heads_of_run h₀ h.of_such).head_eq (he.sent hint) (by simp [collect, hlog, hmd])
      have hmsg : x = reply.answer.messages.head? :=
        hr.head_eq hq.present he hint (by simp only [collect, hlog, hx]; rfl)
      have hstatus := trailers_eq_status hof hint
        (deadlineAlreadyExpired_mono hclock.2 hq.inTime) (T := T)
      simp only [BatchResult.received, hmd, hx, hst, hheads, hmsg, hstatus]
  · cases reply <;> cases hn

end Sys

/-! ## The batches -/

/-- Nothing keeps a batch from making its call: there is a runtime, the path is valid, the
plugin returns, and the deadline has not passed. -/
structure Env.Clear (T : Tonic) (env : Env) (c : GrpcCall) : Prop where
  runtime : env.runtime = .ok ()
  path : T.path c.method = .ok ()
  plugin : ∀ p ∈ c.callPlugin, ∃ ps, (env.plugin p c.method).pairs = .ok ps
  dispatch : deadlineAlreadyExpired c.deadlineUsec env.nowDispatch = false
  status : deadlineAlreadyExpired c.deadlineUsec env.nowStatus = false

theorem Env.Clear.pluginRan {env : Env} {c : GrpcCall} {w : World} (h : env.Clear T c)
    (hp : w.call.callPlugin = c.callPlugin) (hm : w.call.method = c.method) :
    ∃ ps v, PluginRan env w (.ok ps) v := by
  cases hc : c.callPlugin with
  | none => exact ⟨[], w, .absent (hp.trans hc)⟩
  | some p =>
      obtain ⟨ps, hps⟩ := h.plugin p hc
      exact ⟨ps, _, .invoked (hp.trans hc) (hm ▸ hps)⟩

section Batches

variable {method : String} {d : I64} {plugin : Option PluginRef} {connectivity : ChannelState}
  {env : Env} {ops : ZendHashTable} {md : Pairs} {m : Bytes}

/-- The sending batch of the split form starts a server stream. -/
theorem step_start (hp : parseOps ops = .ok (.start md m))
    (hc : env.Clear T (World.fresh method d plugin connectivity).call) :
    (step T (World.fresh method d plugin connectivity) (.startBatch env ops)).call
      = { method, deadlineUsec := d, callPlugin := plugin, sendClosed := true
          initialMetadataSent := true, streamState := some (spawnedStreamState false) } := by
  have ha : Admitted (World.fresh method d plugin connectivity).call ops (.start md m) :=
    ⟨hp, rfl, rfl, rfl, rfl, fun _ ↦ rfl⟩
  obtain ⟨ps, v, hran⟩ := hc.pluginRan (w := ((World.fresh method d plugin connectivity).mapCall
    (·.accept (.start md m))).buffer (.start md m)) rfl rfl
  have hcall := hran.call_eq
  have hx : deadlineAlreadyExpired v.call.deadlineUsec env.nowDispatch = false := by
    rw [hcall]
    exact hc.dispatch
  have hpath : T.path v.call.method = .ok () := by
    rw [hcall]
    exact hc.path
  rw [step_of_dispatch_ok ha (dispatchBatch_split rfl rfl rfl rfl hran
    (.spawned hx hpath hc.runtime))]
  simp only [World.emit_call, World.mapCall_call, World.setStream_call, World.takePendingMessage,
    World.takePendingMetadata, World.extendPending, hcall]
  rfl

/-- The single batch runs the unary call and returns what it brings. -/
theorem step_unary {result : CallResult} (hp : parseOps ops = .ok (.unary md m true))
    (hc : env.Clear T (World.fresh method d plugin connectivity).call)
    (hres : env.unary.result T d env.nowStatus = .ok result) :
    (step T (World.fresh method d plugin connectivity) (.startBatch env ops)).returns
      = [(ops, (buildUnaryResult T true true true result).ack (.unary md m true))] := by
  have ha : Admitted (World.fresh method d plugin connectivity).call ops (.unary md m true) :=
    ⟨hp, rfl, rfl, rfl, rfl, fun _ ↦ rfl⟩
  obtain ⟨ps, v, hran⟩ := hc.pluginRan (w := (World.fresh method d plugin connectivity).mapCall
    (·.accept (.unary md m true))) rfl rfl
  have hcall := hran.call_eq
  have hdl : v.call.deadlineUsec = d := by rw [hcall]; rfl
  have he : Executed T env md ps (some m) v _ _ :=
    .raced (by rw [hdl]; exact hc.dispatch) (by rw [hcall]; exact hc.path) hc.runtime
  rw [hdl, hres] at he
  have hd := dispatchBatch_unary (b := .unary md m true) rfl rfl (.own rfl hran) rfl he
  have hv : v.observe Event.returns = [] := hran.observe_eq fun _ ↦ rfl
  rw [step_of_dispatch_ok ha hd]
  simp only [World.returns, World.observe_emit, World.observe_mapCall, World.observe_recordOutcome,
    UnaryOutcome.observe_effect, hv, Event.returns, ite_self, List.nil_append]
  rfl

end Batches

/-- The stream that `w` has just started is received from by one batch, which returns `r`. -/
def Receives (T : Tonic) (answer : Answer) (w : World) (now : I64) (ops : ZendHashTable)
    (r : BatchResult) : Prop :=
  ∃ ls s, Sys.UndisturbedRun T answer (.spawn answer false w.call w.connectivity .idle now) ls s
    ∧ s.world.returns = [(ops, r)]

/-- The receiving batch of the split form returns, if the task and the PHP thread are
scheduled. -/
theorem exists_receives {w : World} {now : I64} {ops : ZendHashTable} (reply : Reply)
    (ha : Admitted w.call ops (.receive true true true)) :
    ∃ r, Receives T reply.answer w now ops r := by
  let s₀ : Sys := .spawn reply.answer false w.call w.connectivity .idle now
  let s₁ : Sys := { s₀ with
    world := s₀.world.mapCall (·.accept (.receive true true true))
    php := .headers ⟨ops, .receive true true true⟩ {} }
  have hbegin : s₀.step T reply.answer (.begin ops) = some s₁ := by
    change some (s₀.begin ops) = some s₁
    have hadm : admission s₀.world.call ops = .ok (some (.receive true true true)) :=
      ha.admission_eq
    rw [Sys.begin, hadm]
    rfl
  suffices h : ∃ ls s r, Sys.UndisturbedRun T reply.answer s₁ ls s ∧ s.world.returns = [(ops, r)] by
    obtain ⟨ls, s, r, hrun, hret⟩ := h
    exact ⟨r, _, s, (Run.single ⟨rfl, hbegin⟩).append hrun, hret⟩
  -- the task runs to its end, then the PHP thread does
  let received : List Label := [.php, .php, .php, .select .trailers]
  cases reply with
  | rejected status =>
      let ls : List Label := [.driver .proceed, .driver .ready, .driver .rejected, .driver .proceed,
        .driver .proceed, .driver .proceed] ++ received
      exact ⟨ls, _, _, Run.of_foldlM_such rfl, rfl⟩
  | ok headers message _ | error headers message _ =>
      cases message with
      | none =>
          let ls : List Label := [.driver .proceed, .driver .ready, .driver .headers,
            .driver .proceed, .driver .finish, .driver .proceed, .driver .proceed] ++ received
          exact ⟨ls, _, _, Run.of_foldlM_such rfl, rfl⟩
      | some m =>
          let ls : List Label := [.driver .proceed, .driver .ready, .driver .headers,
            .driver .proceed, .driver .message, .driver .proceed, .driver .finish,
            .driver .proceed, .driver .proceed] ++ received
          exact ⟨ls, _, _, Run.of_foldlM_such rfl, rfl⟩

/-! ## Agreement -/

/-- The replies that both forms return alike: a status and nothing else, a message without
trailers, and an error without headers and message. -/
def Reply.Plain (T : Tonic) : Reply → Prop
  | .rejected _ => True
  | .ok _ message trailers => message.isSome = true ∧ metadataToPhp T trailers = []
  | .error headers message _ => message = none ∧ metadataToPhp T headers = []

/-- What the single form makes of a status. -/
theorem received_of_status {d now : I64} (status : Status)
    (hx : deadlineAlreadyExpired d now = false) :
    ∃ result, (UnaryOutcome.status status).result T d now = .ok result ∧
      (buildUnaryResult T true true true result).received
        = (some [], some none, some (status.toPhp T)) := by
  refine ⟨_, rfl, ?_⟩
  simp [buildUnaryResult, BatchResult.received, statusToPhp_eq_reported status hx, Status.toPhp]

/-- The two functions of the reply compared. -/
theorem Reply.Unary.agrees_iff {reply : Reply} {outcome : UnaryOutcome} {d now : I64}
    (h : reply.Unary T outcome) (hx : deadlineAlreadyExpired d now = false) :
    ∃ result, outcome.result T d now = .ok result ∧
      ((buildUnaryResult T true true true result).received
        = (some (metadataToPhp T reply.answer.headers), some reply.answer.messages.head?,
          some (reply.status T)) ↔ reply.Plain T) := by
  cases h with
  | @rejected status =>
      obtain ⟨result, hres, hr⟩ := received_of_status (T := T) status hx
      exact ⟨result, hres, iff_of_true hr trivial⟩
  | @response headers trailers md m hmd =>
      refine ⟨_, rfl, ?_⟩
      change (some (metadataToPhp T md), some (some m), some (PhpStatus.mk [] 0 ""))
        = (some (metadataToPhp T headers), some (some m), some ⟨metadataToPhp T trailers, 0, ""⟩)
      ↔ _
      constructor
      · intro heq
        simp only [Prod.mk.injEq, Option.some.injEq, PhpStatus.mk.injEq] at heq
        exact ⟨rfl, heq.2.2.1.symm⟩
      · rintro ⟨-, htr⟩
        rw [hmd htr, htr]
  | @missing headers trailers status hcode =>
      obtain ⟨result, hres, hr⟩ := received_of_status (T := T) status hx
      refine ⟨result, hres, iff_of_false (fun heq ↦ ?_) (by simp [Reply.Plain])⟩
      rw [hr] at heq
      simp [Reply.status, Status.toPhp, Status.reported, hcode, Code.toInt] at heq
  | @error headers message status status' hcode htext hmd =>
      obtain ⟨result, hres, hr⟩ := received_of_status (T := T) status' hx
      refine ⟨result, hres, ?_⟩
      have hhead : (Reply.error headers message status).answer.messages.head? = message := by
        cases message <;> rfl
      rw [hr, hhead]
      constructor
      · intro heq
        simp only [Prod.mk.injEq, Option.some.injEq] at heq
        exact ⟨heq.2.1.symm, heq.1.symm⟩
      · rintro ⟨rfl, hheaders⟩
        have hst : status'.toPhp T = status.toPhp T := by
          simp [Status.toPhp, Status.reported, hcode, htext, hmd hheaders]
        change _ = (some (metadataToPhp T headers), some none, some (status.toPhp T))
        rw [hheaders, hst]

section Agreement

variable {reply : Reply} {method : String} {d now : I64} {plugin : Option PluginRef}
  {connectivity : ChannelState} {single send : Env} {ops₁ ops₂ ops₃ : ZendHashTable} {md : Pairs}
  {m : Bytes}

/-- The split form returns. -/
theorem exists_receives_of_start (h₂ : parseOps ops₂ = .ok (.start md m))
    (h₃ : parseOps ops₃ = .ok (.receive true true true))
    (hsend : send.Clear T (World.fresh method d plugin connectivity).call) :
    ∃ r, Receives T reply.answer
      (step T (World.fresh method d plugin connectivity) (.startBatch send ops₂)) now ops₃ r := by
  refine exists_receives reply ?_
  rw [step_start h₂ hsend]
  exact ⟨h₃, rfl, rfl, rfl, rfl, nofun⟩

/-- The split form returns the reply. -/
theorem received_eq_of_start {r : BatchResult} (h₂ : parseOps ops₂ = .ok (.start md m))
    (h₃ : parseOps ops₃ = .ok (.receive true true true))
    (hsend : send.Clear T (World.fresh method d plugin connectivity).call)
    (hnow : deadlineAlreadyExpired d now = false)
    (h : Receives T reply.answer
      (step T (World.fresh method d plugin connectivity) (.startBatch send ops₂)) now ops₃ r) :
    r.received = (some (metadataToPhp T reply.answer.headers), some reply.answer.messages.head?,
      some (reply.status T)) := by
  obtain ⟨ls, s, hrun, hret⟩ := h
  generalize hw : step T (World.fresh method d plugin connectivity) (.startBatch send ops₂) = w
    at hrun
  have hcall : w.call = _ := hw ▸ step_start h₂ hsend
  have hst : w.call.streamState = some (spawnedStreamState false) := by rw [hcall]
  have hfin : w.call.finished = false := by rw [hcall]
  have hdl : w.call.deadlineUsec = d := by rw [hcall]
  -- the batch has returned in some run of the call, too
  obtain ⟨acts, v, hrun', t, ht⟩ := Sys.log_of_run (Sys.explained_idle hst) hrun.of_such
  have hmem : (ops₃, r) ∈ v.returns := by
    have : (ops₃, r) ∈ s.world.returns := by simp [hret]
    simp only [World.returns, World.observe, ← ht, List.flatMap_append, List.mem_append]
    exact .inl (.inr this)
  have hans := answers_of_run rfl ((Run.single hw).append hrun') _ hmem (.receive true true true)
    (by rw [h₃]; rfl)
  have h₀ : Sys.Initial reply.answer (.spawn reply.answer false w.call w.connectivity .idle now) :=
    .spawned trivial hfin
  exact Sys.received_eq_split h₀ ⟨rfl, hdl ▸ hnow, fun _ hcause ↦ by cases hcause⟩ hrun hret hans

/-- **The two forms of a unary call agree exactly on plain replies.**  Both return, whatever the
reply; the split form returns the same in every undisturbed run. -/
theorem single_agrees_split_iff (h₁ : parseOps ops₁ = .ok (.unary md m true))
    (h₂ : parseOps ops₂ = .ok (.start md m)) (h₃ : parseOps ops₃ = .ok (.receive true true true))
    (hsingle : single.Clear T (World.fresh method d plugin connectivity).call)
    (hsend : send.Clear T (World.fresh method d plugin connectivity).call)
    (hnow : deadlineAlreadyExpired d now = false) (hunary : reply.Unary T single.unary) :
    let w := World.fresh method d plugin connectivity
    let w' := step T w (.startBatch send ops₂)
    ∃ r₁, (step T w (.startBatch single ops₁)).returns = [(ops₁, r₁)]
      ∧ (∃ r₂, Receives T reply.answer w' now ops₃ r₂)
      ∧ ((∀ r₂, Receives T reply.answer w' now ops₃ r₂ → r₂.received = r₁.received)
        ↔ reply.Plain T) := by
  intro w w'
  obtain ⟨result, hres, hiff⟩ := hunary.agrees_iff hsingle.status
  have hreceives : ∃ r₂, Receives T reply.answer w' now ops₃ r₂ :=
    exists_receives_of_start h₂ h₃ hsend
  refine ⟨_, step_unary h₁ hsingle hres, hreceives, ?_⟩
  rw [← hiff]
  constructor
  · intro h
    obtain ⟨r₂, hr₂⟩ := hreceives
    exact (h r₂ hr₂).symm.trans (received_eq_of_start h₂ h₃ hsend hnow hr₂)
  · intro heq r₂ hr₂
    exact (received_eq_of_start h₂ h₃ hsend hnow hr₂).trans heq.symm

/-- A message without trailers comes back alike from both forms. -/
theorem single_agrees_split_iff_message :
    let reply : Reply := .ok [] (some [7]) []
    let env : Env := { Env.calm with unary := .response [] [7] }
    let send : ZendHashTable := [metadataOp [], messageOp [1], Op.sendCloseFromClient.flag]
    let receive : ZendHashTable :=
      [Op.recvInitialMetadata.flag, Op.recvMessage.flag, Op.recvStatusOnClient.flag]
    let w := World.fresh "/s/m" I64.max none .idle
    reply.Unary Tonic.ascii env.unary ∧
      ∃ r₁ r₂, (step Tonic.ascii w (.startBatch env (send ++ receive))).returns
          = [(send ++ receive, r₁)] ∧
        Receives Tonic.ascii reply.answer (step Tonic.ascii w (.startBatch env send)) (I64.ofInt 1)
          receive r₂ ∧
        r₂.received = r₁.received := by
  intro reply env send receive w
  have hc : env.Clear Tonic.ascii w.call := ⟨rfl, if_pos (by decide), nofun, by decide, by decide⟩
  have hunary : reply.Unary Tonic.ascii env.unary := .response fun _ ↦ rfl
  have hboth : parseOps (send ++ receive) = .ok (.unary [] [1] true) := rfl
  have hsend : parseOps send = .ok (.start [] [1]) := rfl
  have hreceive : parseOps receive = .ok (.receive true true true) := rfl
  have hnow : deadlineAlreadyExpired I64.max (I64.ofInt 1) = false := by decide
  obtain ⟨r₁, h₁, ⟨r₂, h₂⟩, hiff⟩ :=
    single_agrees_split_iff hboth hsend hreceive hc hc hnow hunary
  exact ⟨hunary, r₁, r₂, h₁, h₂, hiff.mpr ⟨rfl, rfl⟩ r₂ h₂⟩

/-- The trailers of a successful call are in the status of the split form only. -/
theorem single_drops_trailers :
    let reply : Reply := .ok [] (some [7]) [("k", [118])]
    let env : Env := { Env.calm with unary := .response [("k", [118])] [7] }
    let send : ZendHashTable := [metadataOp [], messageOp [1], Op.sendCloseFromClient.flag]
    let receive : ZendHashTable :=
      [Op.recvInitialMetadata.flag, Op.recvMessage.flag, Op.recvStatusOnClient.flag]
    let w := World.fresh "/s/m" I64.max none .idle
    env.Clear Tonic.ascii w.call ∧ reply.Unary Tonic.ascii env.unary ∧
      ∃ r₁ r₂, (step Tonic.ascii w (.startBatch env (send ++ receive))).returns
          = [(send ++ receive, r₁)] ∧
        Receives Tonic.ascii reply.answer (step Tonic.ascii w (.startBatch env send)) (I64.ofInt 1)
          receive r₂ ∧
        r₁.status = some ⟨[], 0, ""⟩ ∧ r₂.status = some ⟨[("k", [[118]])], 0, ""⟩ ∧
        r₂.received ≠ r₁.received := by
  intro reply env send receive w
  have hc : env.Clear Tonic.ascii w.call := ⟨rfl, if_pos (by decide), nofun, by decide, by decide⟩
  have hboth : parseOps (send ++ receive) = .ok (.unary [] [1] true) := rfl
  have hsend : parseOps send = .ok (.start [] [1]) := rfl
  have hreceive : parseOps receive = .ok (.receive true true true) := rfl
  have hnow : deadlineAlreadyExpired I64.max (I64.ofInt 1) = false := by decide
  obtain ⟨r₂, h₂⟩ : ∃ r₂, Receives Tonic.ascii reply.answer
      (step Tonic.ascii w (.startBatch env send)) (I64.ofInt 1) receive r₂ :=
    exists_receives_of_start hsend hreceive hc
  have hst : r₂.status = some ⟨[("k", [[118]])], 0, ""⟩ := by
    have hr : r₂.status = some (reply.status Tonic.ascii) :=
      congrArg (·.2.2) (received_eq_of_start hsend hreceive hc hnow h₂)
    rw [hr]
    decide
  refine ⟨hc, .response (by decide), _, r₂, step_unary hboth hc rfl, h₂, rfl, hst, fun h ↦ ?_⟩
  have hst' : r₂.status = some ⟨[], 0, ""⟩ := congrArg (·.2.2) h
  cases hst.symm.trans hst'

end Agreement

end GrpcPhp
