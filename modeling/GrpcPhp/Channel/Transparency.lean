import GrpcPhp.Channel.Reuse

/-!
# The registry is a cache

A channel that finds its text in the registry does not build an endpoint: it takes the one an
earlier channel has built, from *its* arguments.  That nobody can tell needs two things.  What
an endpoint is built from is the target, the TLS configuration and the arguments as a map, so
that equal requests build equal endpoints (`buildEndpoint_congr`); and channels that share a
transport made equal requests, which holds where the texts can be read back.

The result compares every channel of a run with the one its constructor would have made if the
registry had been empty.
-/

namespace GrpcPhp

open Lib Php

/-! ## Reading arguments from the map -/

/-- The value of an integer argument. -/
def ArgValue.int? : ArgValue → Option I64
  | .int n => some n
  | .string _ => none

/-- The value of a string argument. -/
def ArgValue.string? : ArgValue → Option String
  | .int _ => none
  | .string text => some text

theorem ArgValue.bind_int? (z : Zval) : (ofZval? z).bind int? = z.long? := by
  unfold ofZval?
  cases z.long? with
  | some n => rfl
  | none => cases z.string? <;> rfl

theorem ArgValue.bind_string? (z : Zval) : (ofZval? z).bind string? = z.string? := by
  cases z with
  | string bytes =>
      show ((fromUtf8 bytes).map ArgValue.string).bind string? = fromUtf8 bytes
      cases fromUtf8 bytes <;> rfl
  | _ => rfl

/-- Keys of arrays are compared by their bytes. -/
theorem isStr_iff {key : ArrayKey} {name : String} :
    key.isStr name = true ↔ key.bytes? = some (toUtf8 name) := by
  cases key with
  | long n => simp [ArrayKey.isStr, ArrayKey.bytes?]
  | string s | str s =>
      have hinj : toUtf8 s = toUtf8 name ↔ s = name :=
        ⟨fun h ↦ Option.some.inj ((fromUtf8_eq_some_iff.mpr rfl).symm.trans
          (fromUtf8_eq_some_iff.mpr h)), fun h ↦ congrArg toUtf8 h⟩
      simp [ArrayKey.isStr, ArrayKey.bytes?, hinj]
  | zendString bytes => simp [ArrayKey.isStr, ArrayKey.bytes?, fromUtf8_eq_some_iff]

section

variable {X : Transport} {args args' : PhpArray} {name : String}

/-- The value under the first key that is the given text. -/
theorem get?_cons (e : ArrayKey × Zval) (entries : ZendHashTable) (name : String) :
    ZendHashTable.get? (e :: entries) name =
      if e.1.bytes? = some (toUtf8 name) then some e.2 else entries.get? name := by
  unfold ZendHashTable.get?
  rw [List.find?_cons]
  by_cases h : e.1.bytes? = some (toUtf8 name)
  · rw [isStr_iff.mpr h, if_pos h, Option.map_some]
  · rw [Bool.eq_false_iff.mpr fun hs ↦ h (isStr_iff.mp hs), if_neg h]

/-- An argument that is read by name, other than `credentials` and `force_new`, is the one the
map has. -/
theorem argMap_eq (X : Transport) (args : PhpArray) (hc : name ≠ "credentials")
    (hf : name ≠ "force_new") :
    argMap X args (toUtf8 name) = (args.entries.get? name).bind ArgValue.ofZval? := by
  obtain ⟨entries, hnodup⟩ := args
  unfold argMap plainArgs
  induction entries with
  | nil => rfl
  | cons e entries ih =>
      rw [get?_cons]
      by_cases hk : e.1.bytes? = some (toUtf8 name)
      · rw [List.filterMap_cons, hk, List.nodup_cons] at hnodup
        have hplain : plainArg X e = (ArgValue.ofZval? e.2).map fun v ↦ (toUtf8 name, v) := by
          simp [plainArg, hk, X.keyText_toUtf8, hc, hf]
        rw [if_pos hk, Option.bind_some]
        cases hv : ArgValue.ofZval? e.2 with
        | some v =>
            rw [hv] at hplain
            rw [List.filterMap_cons_some hplain, List.lookup_cons_self]
        | none =>
            -- a value of another type is dropped, and no other entry has this key
            have hnone : ZendHashTable.get? entries name = none := by
              simp only [ZendHashTable.get?, Option.map_eq_none_iff, List.find?_eq_none]
              exact fun e' he' hs ↦ hnodup.1 (List.mem_filterMap.mpr ⟨e', he', isStr_iff.mp hs⟩)
            rw [hv] at hplain
            rw [List.filterMap_cons_none hplain, ih hnodup.2, hnone]
            rfl
      · have hrest : (entries.filterMap fun e ↦ e.1.bytes?).Nodup :=
          hnodup.sublist ((List.sublist_cons_self e entries).filterMap _)
        rw [if_neg hk, ← ih hrest]
        cases hp : plainArg X e with
        | none => rw [List.filterMap_cons_none hp]
        | some p =>
            have hne : toUtf8 name ≠ p.1 := fun h ↦ hk (h ▸ plainArg_key hp)
            rw [List.filterMap_cons_some hp, List.lookup_cons, beq_eq_false_iff_ne.mpr hne]

theorem longArg_eq (X : Transport) (args : PhpArray) (hc : name ≠ "credentials")
    (hf : name ≠ "force_new") :
    longArg args.entries name = (argMap X args (toUtf8 name)).bind ArgValue.int? := by
  rw [argMap_eq X args hc hf, longArg, Option.bind_assoc]
  exact congrArg _ (funext fun z ↦ (ArgValue.bind_int? z).symm)

theorem stringArg_eq (X : Transport) (args : PhpArray) (hc : name ≠ "credentials")
    (hf : name ≠ "force_new") :
    stringArg args.entries name = (argMap X args (toUtf8 name)).bind ArgValue.string? := by
  rw [argMap_eq X args hc hf, stringArg, Option.bind_assoc]
  exact congrArg _ (funext fun z ↦ (ArgValue.bind_string? z).symm)

/-! ## Endpoints depend on the map only -/

theorem longArg_congr (h : argMap X args = argMap X args') (hc : name ≠ "credentials")
    (hf : name ≠ "force_new") : longArg args.entries name = longArg args'.entries name := by
  rw [longArg_eq X args hc hf, longArg_eq X args' hc hf, h]

theorem stringArg_congr (h : argMap X args = argMap X args') (hc : name ≠ "credentials")
    (hf : name ≠ "force_new") : stringArg args.entries name = stringArg args'.entries name := by
  rw [stringArg_eq X args hc hf, stringArg_eq X args' hc hf, h]

theorem setLong_congr (h : argMap X args = argMap X args') (hc : name ≠ "credentials")
    (hf : name ≠ "force_new") (valid : ℤ → Bool) (set : ℤ → Endpoint → Endpoint) :
    Endpoint.setLong args.entries name valid set
      = Endpoint.setLong args'.entries name valid set := by
  funext e
  simp only [Endpoint.setLong, longArg_congr h hc hf]

theorem configure_congr (h : argMap X args = argMap X args') :
    Endpoint.configure args.entries = Endpoint.configure args'.entries := by
  funext e
  simp only [Endpoint.configure, Endpoint.setBdpProbe, Endpoint.setLookahead,
    Endpoint.setMaxFrameSize, Endpoint.setKeepAliveTimeout, Endpoint.setKeepAliveTime]
  iterate 5 rw [setLong_congr h (by decide) (by decide)]

/-- Equal requests build equal endpoints. -/
theorem buildEndpoint_congr (h : argMap X args = argMap X args') (runtime : Except String Unit)
    (target : String) (tls : Option ClientTlsConfig) :
    buildEndpoint X runtime target args.entries tls =
      buildEndpoint X runtime target args'.entries tls := by
  have hagent : Endpoint.setUserAgent X args.entries = Endpoint.setUserAgent X args'.entries := by
    funext e
    unfold Endpoint.setUserAgent
    rw [stringArg_congr h (by decide) (by decide)]
  have hname : overrideDomainName args.entries = overrideDomainName args'.entries := by
    funext tls
    unfold overrideDomainName
    rw [stringArg_congr h (by decide) (by decide)]
  simp only [buildEndpoint, configure_congr h, hagent, hname]

/-- An endpoint was built on a runtime that could be entered. -/
theorem buildEndpoint_runtime {runtime : Except String Unit} {target : String}
    {args : ZendHashTable} {tls : Option ClientTlsConfig} {e : Endpoint}
    (h : buildEndpoint X runtime target args tls = .ok e) :
    buildEndpoint X (.ok ()) target args tls = .ok e := by
  cases runtime with
  | ok u => exact h
  | error text =>
      unfold buildEndpoint at h
      split at h
      · cases h
      · obtain ⟨e₁, -, h⟩ := bind_eq_ok_iff.mp h
        obtain ⟨e₂, -, h⟩ := bind_eq_ok_iff.mp h
        cases h

end

/-! ## Who built a transport -/

namespace Extension

variable {T : Tonic} {X : Transport} {s s' : Extension} {a : ThreadAction}

/-- The endpoints of the transports. -/
def endpoints (s : Extension) : List Endpoint := s.registry.transports.map SharedChannel.channel

/-- What a step does to the endpoints: a constructor builds one, or they stay. -/
theorem step_endpoints (h : s.step T X a = some s') :
    s'.endpoints = s.endpoints
      ∨ ∃ e scan creds endpoint, e.Accepted X s'.heap scan creds s.endpoints.length
        ∧ s'.constructions = s.constructions ++ [e]
        ∧ buildEndpoint X (.ok ()) e.target e.args.entries creds.tlsConfig = .ok endpoint
        ∧ s'.endpoints = s.endpoints ++ [endpoint] := by
  cases steps_of_step h with
  | @constructed runtime target args ch r hc =>
      obtain ⟨scan, creds, shared, ha, ho⟩ := Construction.accepted_of_construct X hc
      cases ho with
      | reused => exact .inl rfl
      | @built e _ hbuild =>
          refine .inr ⟨⟨target, args, ch⟩, scan, creds, e, ?_, List.map_append,
            buildEndpoint_runtime hbuild, List.map_append⟩
          rw [endpoints, List.length_map]
          exact ha
  | onCall =>
      left
      unfold endpoints record
      refine map_modify_of_eq SharedChannel.channel (fun t ↦ ?_) ..
      rfl
  | onTransport ht => exact .inl (map_set_of_getElem? _ ht rfl)
  | credentials | refused | called | notCalled | close => exact .inl rfl

/-- Every transport was built by the first channel that has it. -/
def Built (X : Transport) (s : Extension) : Prop :=
  ∀ i endpoint, s.endpoints[i]? = some endpoint → ∃ e ∈ s.constructions, ∃ scan creds,
    e.Accepted X s.heap scan creds i
      ∧ buildEndpoint X (.ok ()) e.target e.args.entries creds.tlsConfig = .ok endpoint

/-- Constructions and what was accepted stay. -/
theorem accepted_step (h : s.step T X a = some s') {e : Construction} (he : e ∈ s.constructions) :
    e ∈ s'.constructions ∧ ∀ {scan creds i}, e.Accepted X s.heap scan creds i →
      e.Accepted X s'.heap scan creds i := by
  rcases step_cases h with ⟨c, -, hheap, -, hcons⟩ | ⟨_, _, _, _, -, -, hheap, hcons⟩
    | ⟨hheap, -, hcons⟩
  · exact ⟨hcons ▸ he, fun ha ↦ ha.step hheap⟩
  · exact ⟨hcons ▸ List.mem_append_left _ he, fun ha ↦ hheap ▸ ha⟩
  · exact ⟨hcons ▸ he, fun ha ↦ hheap ▸ ha⟩

theorem Built.step (hb : s.Built X) (h : s.step T X a = some s') : s'.Built X := by
  have hold : ∀ i endpoint, s.endpoints[i]? = some endpoint → ∃ e ∈ s'.constructions,
      ∃ scan creds, e.Accepted X s'.heap scan creds i
        ∧ buildEndpoint X (.ok ()) e.target e.args.entries creds.tlsConfig = .ok endpoint := by
    intro i endpoint hi
    obtain ⟨e, he, scan, creds, ha, hbuild⟩ := hb i endpoint hi
    obtain ⟨he', ha'⟩ := accepted_step h he
    exact ⟨e, he', scan, creds, ha' ha, hbuild⟩
  rcases step_endpoints h with heq | ⟨e, scan, creds, endpoint, ha, hcons, hbuild, heq⟩
  · exact fun i endpoint hi ↦ hold i endpoint (heq ▸ hi)
  · intro i endpoint' hi
    rw [heq] at hi
    rcases getElem?_concat_eq_some hi with hi | ⟨rfl, rfl⟩
    · exact hold i endpoint' hi
    · exact ⟨e, hcons ▸ List.mem_append_right _ List.mem_cons_self, scan, creds, ha, hbuild⟩

theorem built_of_run {as : List ThreadAction} (h : Run (pgraph (Extension.step T X)) {} as s) :
    s.Built X :=
  h.state_invariant (I := Built X) (fun _ _ hi ↦ by simp [endpoints] at hi)
    fun _ _ _ hb hstep ↦ hb.step hstep

/-- A channel has a transport that exists. -/
theorem Sound.exists_endpoint (hs : s.Sound X) {e : Construction} (he : e ∈ s.constructions)
    {scan : ArgScan} {creds : Extracted} {shared : ℕ} (ha : e.Accepted X s.heap scan creds shared) :
    ∃ endpoint, s.endpoints[shared]? = some endpoint := by
  have hlt : shared < s.registry.transports.length := by
    have := hs.serves.lt_next _ (List.mem_map_of_mem he)
    rwa [ha.served_eq] at this
  exact ⟨_, List.getElem?_eq_getElem (by rwa [endpoints, List.length_map])⟩

/-- Channels on one transport made the same request, if the texts can be read back. -/
theorem Sound.sameRequest (hs : s.Sound X) (hr : s.Readable X) {e e' : Construction}
    (he : e ∈ s.constructions) (he' : e' ∈ s.constructions) {scan scan' : ArgScan}
    {creds creds' : Extracted} {i : ℕ} (ha : e.Accepted X s.heap scan creds i)
    (ha' : e'.Accepted X s.heap scan' creds' i) : e.SameRequest X e' := by
  have : Std.Symm fun e e' : Construction ↦ e.SharesTransport e' → e.SameRequest X e' :=
    ⟨fun e e' hsame ⟨i, hi, hi'⟩ ↦ by
      obtain ⟨htarget, hcreds, hargs⟩ := hsame ⟨i, hi', hi⟩
      exact ⟨htarget.symm, hcreds.symm, hargs.symm⟩⟩
  exact (hs.pairwise_sameRequest hr).forall_of_forall (fun _ _ _ ↦ ⟨rfl, rfl, rfl⟩) he he'
    ((ha.sharesTransport_iff ha').mpr rfl)

end Extension

/-- With an empty registry, the constructor builds. -/
theorem construct_empty {X : Transport} {heap : CredentialsHeap} {e : Construction}
    {scan : ArgScan} {creds : Extracted} {shared : ℕ} {endpoint : Endpoint}
    (ha : e.Accepted X heap scan creds shared)
    (hbuild : buildEndpoint X (.ok ()) e.target e.args.entries creds.tlsConfig = .ok endpoint) :
    GrpcChannel.construct X heap (.ok ()) e.target e.args.entries {}
      = (.ok (wrapper e.target e.args.entries creds 0),
          Registry.add {} (persistKey e.target scan creds) endpoint) := by
  have hfind : ∀ key, ({} : Registry).table.find? key = none := fun key ↦ by
    cases key <;> rfl
  simp only [GrpcChannel.construct, sharedChannel, Fallible.bind_apply, Fallible.lift_apply,
    Fallible.gets_apply, ha.scanned, ha.extracted, hfind, hbuild]
  rfl

/-- **The registry is transparent.**  In every run whose steps are unambiguous, every channel
that was ever constructed, whether it built its transport or was given one, has exactly the
endpoint that its own constructor call would have built with an empty registry, and is the
object that call would have returned, up to the number of the transport. -/
theorem transparent_of_run {T : Tonic} {X : Transport} {as : List ThreadAction} {s : Extension}
    (h : Run (Such (pgraph (Extension.step T X)) (Unambiguous X)) {} as s) {e : Construction}
    (he : e ∈ s.constructions) :
    ∃ creds shared endpoint ch r, e.created = wrapper e.target e.args.entries creds shared
      ∧ s.endpoints[shared]? = some endpoint
      ∧ GrpcChannel.construct X s.heap (.ok ()) e.target e.args.entries {} = (.ok ch, r)
      ∧ ch = wrapper e.target e.args.entries creds 0
      ∧ r.transports.map SharedChannel.channel = [endpoint] := by
  have hs := Extension.sound_of_run h.of_such
  obtain ⟨scan, creds, shared, ha⟩ := hs.accepted e he
  obtain ⟨endpoint, hi⟩ := hs.exists_endpoint he ha
  obtain ⟨e₀, he₀, scan₀, creds₀, ha₀, hbuild⟩ :=
    Extension.built_of_run h.of_such shared endpoint hi
  obtain ⟨htarget, hcreds, hargs⟩ := hs.sameRequest (Extension.readable_of_run h) he₀ he ha₀ ha
  obtain rfl := ha₀.creds_eq ha hcreds
  rw [htarget, buildEndpoint_congr hargs] at hbuild
  exact ⟨creds₀, shared, endpoint, _, _, ha.created_eq, hi, construct_empty ha hbuild, rfl, rfl⟩

/-- One channel, constructed twice. -/
def ThreadAction.twice : List ThreadAction :=
  let args : PhpArray := ⟨[(.str "grpc.keepalive_time_ms", .long I64.max)], by decide⟩
  [.constructChannel (.ok ()) "localhost:1" args, .constructChannel (.ok ()) "localhost:1" args]

/-- The second channel is given the transport of the first, and would have built the same. -/
theorem transparent_of_run_twice : ∃ s,
    Run (Such (pgraph (Extension.step .ascii .plain)) (Unambiguous .plain)) {} ThreadAction.twice s
      ∧ s.constructions.map Construction.transport = [some 0, some 0]
      ∧ ∀ e ∈ s.constructions, ∃ creds shared endpoint ch r,
        e.created = wrapper e.target e.args.entries creds shared
          ∧ s.endpoints[shared]? = some endpoint
          ∧ GrpcChannel.construct .plain s.heap (.ok ()) e.target e.args.entries {} = (.ok ch, r)
          ∧ ch = wrapper e.target e.args.entries creds 0
          ∧ r.transports.map SharedChannel.channel = [endpoint] := by
  have hlegible : Legible .plain (toUtf8 "grpc.keepalive_time_ms", .int I64.max) := by
    refine ⟨⟨_, rfl⟩, ?_, fun _ h ↦ by cases h⟩
    rw [Transport.keyText_toUtf8]
    exact ⟨by decide, by decide, by decide⟩
  have hseparate : ∀ a ∈ ThreadAction.twice, ∀ s, Unambiguous .plain s a := by
    intro a ha s
    simp only [ThreadAction.twice, List.mem_cons, List.not_mem_nil, or_false, or_self] at ha
    subst ha
    intro _ _
    have hplain : plainArgs .plain [(.str "grpc.keepalive_time_ms", .long I64.max)]
        = [(toUtf8 "grpc.keepalive_time_ms", .int I64.max)] := by decide +kernel
    exact ⟨by decide, by simpa [hplain] using hlegible⟩
  obtain ⟨s, hrun, hs⟩ := Run.exists_of_any (Extension.step .ascii .plain) {} ThreadAction.twice
    (fun s ↦ s.constructions.map Construction.transport = [some 0, some 0]) (by decide +kernel)
  have hrun := hrun.such_of_forall hseparate
  exact ⟨s, hrun, of_decide_eq_true hs, fun e he ↦ transparent_of_run hrun he⟩

end GrpcPhp
