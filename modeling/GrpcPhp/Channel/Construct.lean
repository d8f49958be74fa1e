import GrpcPhp.Channel.Connectivity
import GrpcPhp.Channel.Credentials
import GrpcPhp.Lib.Fallible
import GrpcPhp.Lib.Intern
import Mathlib.Data.List.Infix
import Mathlib.Data.List.Sort
import Mathlib.Data.String.Basic

/-!
# Constructing a channel

`GrpcChannel::__construct` reads the channel arguments in one loop, takes the credentials out
of them, and looks the channel up in the registry of its thread under a text made of the
target, the id of the credentials and the sorted arguments.  Only if there is no such channel
it builds an endpoint, connects it lazily and registers it.  A channel with a call plugin, or
with `force_new`, has no such text: it is built every time and never registered.

The constructor may raise at many points.  It is modelled in `Fallible`, which keeps the
state on both ways out, so that it is a theorem (`construct_cases`) and not a matter of types
that a constructor that raises leaves the registry alone.
-/

namespace GrpcPhp

open Lib Php

/-! ## Endpoints -/

/-- `http::Uri`: its scheme, and the whole text. -/
structure Uri where
  scheme : Option String
  text : String
deriving DecidableEq, Repr

/-- `tonic::transport::Endpoint`: what was set on it.  Durations are in milliseconds. -/
structure Endpoint where
  uri : Uri
  http2KeepAliveInterval : Option ℕ := none
  keepAliveTimeout : Option ℕ := none
  maxFrameSize : Option ℕ := none
  initialStreamWindowSize : Option ℕ := none
  initialConnectionWindowSize : Option ℕ := none
  http2AdaptiveWindow : Option Bool := none
  userAgent : Option String := none
  tlsConfig : Option ClientTlsConfig := none
  connectTimeout : Option ℕ := none
deriving DecidableEq, Repr

/-- What the constructor uses of `tonic::transport` and of the binding library, with the facts
about it that the results rest on. -/
structure Transport where
  /-- `Endpoint::from_shared`; the error is its display text. -/
  fromShared : String → Except String Uri
  /-- A URI that starts with `https://` has that scheme. -/
  scheme_https : ∀ {t u}, fromShared ("https://" ++ t) = .ok u → u.scheme = some "https"
  /-- `Endpoint::user_agent`. -/
  userAgent : String → Except String Unit
  /-- `Endpoint::tls_config`. -/
  tlsConfig : Endpoint → ClientTlsConfig → Except String Unit
  /-- `ArrayKey::to_string` on a string key, whatever its bytes. -/
  keyText : Bytes → String
  /-- A key that is a text is displayed as that text. -/
  keyText_toUtf8 : ∀ s, keyText (toUtf8 s) = s

/-- A transport library that knows two schemes and accepts every configuration. -/
def Transport.plain : Transport where
  fromShared t :=
    if "https://".toList <+: t.toList then .ok ⟨some "https", t⟩
    else if "http://".toList <+: t.toList then .ok ⟨some "http", t⟩
    else .error "invalid format"
  scheme_https := by
    intro t u h
    rw [if_pos (by rw [String.toList_append]; exact List.prefix_append _ _)] at h
    obtain rfl := Except.ok.inj h
    rfl
  userAgent _ := .ok ()
  tlsConfig _ _ := .ok ()
  keyText bytes := (fromUtf8 bytes).getD "?"
  keyText_toUtf8 s := by rw [fromUtf8_eq_some_iff.mpr rfl, Option.getD_some]

variable (X : Transport)

/-! ## Reading the arguments -/

/-- `key.to_string()`; an integer key is refused before. -/
def Transport.keyToString : ArrayKey → Option String
  | .long _ => none
  | .string s | .str s => some s
  | .zendString bytes => some (X.keyText bytes)

/-- The text of an argument: an integer in decimal, or a string. -/
def argText (z : Zval) : Option String := match z.long? with
  | some l => some (toString l.val)
  | none => z.string?

/-- What the loop over the arguments collects. -/
structure ArgScan where
  forceNew : Bool := false
  persistParts : List String := []
deriving DecidableEq, Repr

/-- `val.bool().unwrap_or(false) || val.long().is_some_and(|l| l != 0)`. -/
def isForced (z : Zval) : Bool := z.bool?.getD false || z.long?.any fun l ↦ l.val ≠ 0

/-- The body of the loop. -/
def scanArg (acc : ArgScan) (e : ArrayKey × Zval) : Except PhpException ArgScan :=
  match X.keyToString e.1 with
  | none => .error (invalidArgument "args keys must be strings")
  | some key =>
      if key = "credentials" then .ok acc
      else if key = "force_new" then .ok { acc with forceNew := isForced e.2 }
      else match argText e.2 with
        | none => .error (invalidArgument "args values must be int or string")
        | some val => .ok { acc with persistParts := acc.persistParts ++ [key ++ "=" ++ val] }

/-- The loop over the arguments. -/
def scanArgs (args : ZendHashTable) : Except PhpException ArgScan := args.foldlM (scanArg X) {}

/-- What is taken from the credentials; id 0 stands for none. -/
structure Extracted where
  tlsConfig : Option ClientTlsConfig := none
  callPlugin : Option PluginRef := none
  credsId : ℕ := 0
deriving DecidableEq, Repr

/-- Take the credentials out of the arguments; `null` means none. -/
def extractCredentials (heap : CredentialsHeap) (args : ZendHashTable) :
    Except PhpException Extracted :=
  let refused := .error (invalidArgument "credentials must be a ChannelCredentials object")
  match args.get? "credentials" with
  | none | some .null => .ok {}
  | some (.channelCredentials handle) => match heap.get? handle with
      | some c => .ok ⟨some c.inner.tlsConfig, c.inner.callPlugin, c.id⟩
      | none => refused
  | some _ => refused

/-- An integer argument. -/
def longArg (args : ZendHashTable) (name : String) : Option I64 := (args.get? name).bind Zval.long?

/-- A string argument. -/
def stringArg (args : ZendHashTable) (name : String) : Option String :=
  (args.get? name).bind Zval.string?

/-- `usize::MAX`. -/
def USIZE_MAX : ℕ := 2 ^ 64 - 1

/-- A message size limit: `-1` means unlimited, and other values that are not positive are
ignored. -/
def messageSizeLimit (args : ZendHashTable) (name : String) : Option ℕ :=
  (longArg args name).bind fun v ↦
    if v.val = -1 then some USIZE_MAX else if 0 < v.val then some v.val.toNat else none

/-- The text a channel is registered under. -/
def persistKey (target : String) (scan : ArgScan) (creds : Extracted) : Option String :=
  if creds.callPlugin.isNone && !scan.forceNew then
    some (target ++ "|creds=" ++ toString creds.credsId ++ "|"
      ++ ",".intercalate (scan.persistParts.insertionSort (· ≤ ·)))
  else none

/-! ## Building an endpoint -/

/-- The URI for a target; a bare `host:port` gets a scheme. -/
def uriTarget (target : String) (tls : Option ClientTlsConfig) : String :=
  if "://".toList <:+: target.toList then target
  else if tls.isSome then "https://" ++ target
  else "http://" ++ target

namespace Endpoint

/-- Set what an integer argument says, if its value is acceptable. -/
def setLong (args : ZendHashTable) (name : String) (valid : ℤ → Bool)
    (set : ℤ → Endpoint → Endpoint) (e : Endpoint) : Endpoint :=
  match longArg args name with
  | some n => if valid n.val then set n.val e else e
  | none => e

/-- `grpc.keepalive_time_ms`. -/
def setKeepAliveTime (args : ZendHashTable) : Endpoint → Endpoint :=
  setLong args "grpc.keepalive_time_ms" (0 < ·) fun ms e ↦
    { e with http2KeepAliveInterval := some ms.toNat }

/-- `grpc.keepalive_timeout_ms`. -/
def setKeepAliveTimeout (args : ZendHashTable) : Endpoint → Endpoint :=
  setLong args "grpc.keepalive_timeout_ms" (0 < ·) fun ms e ↦
    { e with keepAliveTimeout := some ms.toNat }

/-- `grpc.http2.max_frame_size`. -/
def setMaxFrameSize (args : ZendHashTable) : Endpoint → Endpoint :=
  setLong args "grpc.http2.max_frame_size" (fun n ↦ 16384 ≤ n && n ≤ 16777215) fun n e ↦
    { e with maxFrameSize := some n.toNat }

/-- `grpc.http2.lookahead_bytes`; the connection window is at least as large as the stream
window, and at least 5 MiB. -/
def setLookahead (args : ZendHashTable) : Endpoint → Endpoint :=
  setLong args "grpc.http2.lookahead_bytes" (fun n ↦ 0 < n && n < 2 ^ 32) fun n e ↦
    { e with
      initialStreamWindowSize := some n.toNat
      initialConnectionWindowSize := some (max n.toNat (5 * 1024 * 1024)) }

/-- `grpc.http2.bdp_probe`. -/
def setBdpProbe (args : ZendHashTable) : Endpoint → Endpoint :=
  setLong args "grpc.http2.bdp_probe" (fun _ ↦ true) fun n e ↦
    { e with http2AdaptiveWindow := some (n ≠ 0) }

/-- The settings that cannot fail, in the order of the source. -/
def configure (args : ZendHashTable) (e : Endpoint) : Endpoint :=
  setBdpProbe args (setLookahead args (setMaxFrameSize args
    (setKeepAliveTimeout args (setKeepAliveTime args e))))

/-- A setting that leaves a part of the endpoint alone does so for every argument. -/
theorem setLong_frame {β : Type} (part : Endpoint → β) {args : ZendHashTable} {name : String}
    {valid : ℤ → Bool} {set : ℤ → Endpoint → Endpoint} (hset : ∀ n e, part (set n e) = part e)
    (e : Endpoint) : part (setLong args name valid set e) = part e := by
  unfold setLong
  split
  · split
    · exact hset _ _
    · rfl
  · rfl

/-- No setting touches the URI. -/
theorem configure_uri (args : ZendHashTable) (e : Endpoint) : (configure args e).uri = e.uri := by
  rw [configure, setBdpProbe, setLong_frame uri (by intros; rfl),
    setLookahead, setLong_frame uri (by intros; rfl),
    setMaxFrameSize, setLong_frame uri (by intros; rfl),
    setKeepAliveTimeout, setLong_frame uri (by intros; rfl),
    setKeepAliveTime, setLong_frame uri (by intros; rfl)]

/-- `grpc.primary_user_agent`. -/
def setUserAgent (args : ZendHashTable) (e : Endpoint) : Except PhpException Endpoint :=
  match stringArg args "grpc.primary_user_agent" with
  | none => .ok e
  | some ua => match X.userAgent ua with
      | .ok () => .ok { e with userAgent := some ua }
      | .error text => .error (GrpcError.invalidArg text).toPhp

/-- Apply the TLS configuration, if there are credentials. -/
def setTlsConfig (tls : Option ClientTlsConfig) (e : Endpoint) : Except PhpException Endpoint :=
  match tls with
  | none => .ok e
  | some tls => match X.tlsConfig e tls with
      | .ok () => .ok { e with tlsConfig := some tls }
      | .error text => .error (GrpcError.transport text).toPhp

end Endpoint

/-- `grpc.ssl_target_name_override`. -/
def overrideDomainName (args : ZendHashTable) (tls : ClientTlsConfig) : ClientTlsConfig :=
  match stringArg args "grpc.ssl_target_name_override" with
  | some name => { tls with domainName := some name }
  | none => tls

/-- Enter the runtime, which may have to be made, and bound the connection attempts. -/
def enterRuntime (runtime : Except String Unit) (e : Endpoint) : Except PhpException Endpoint :=
  match runtime with
  | .ok () => .ok { e with connectTimeout := some 20000 }
  | .error text => .error (GrpcError.runtimeInit text).toPhp

/-- Build the endpoint. -/
def buildEndpoint (runtime : Except String Unit) (target : String) (args : ZendHashTable)
    (tls : Option ClientTlsConfig) : Except PhpException Endpoint :=
  match X.fromShared (uriTarget target tls) with
  | .error text => .error (GrpcError.invalidUri text).toPhp
  | .ok uri => do
      let e ← Endpoint.setUserAgent X args (Endpoint.configure args { uri })
      let e ← Endpoint.setTlsConfig X (tls.map (overrideDomainName args)) e
      enterRuntime runtime e

/-! ## The registry -/

/-- `SharedChannel`. -/
structure SharedChannel where
  channel : Endpoint
  connectivity : Connectivity := {}
deriving DecidableEq, Repr

/-- `ChannelInner`; the transport is the number of a `SharedChannel`. -/
structure ChannelInner where
  shared : ℕ
  target : String
  callPlugin : Option PluginRef
  maxDecodingMessageSize : Option ℕ
  maxEncodingMessageSize : Option ℕ
deriving DecidableEq, Repr

/-- `GrpcChannel`. -/
structure GrpcChannel where
  inner : Option ChannelInner
  closedFlag : Bool := false
deriving DecidableEq, Repr

/-- `CHANNEL_REGISTRY`, and the `SharedChannel`s made so far. -/
structure Registry where
  entries : List (String × ℕ) := []
  transports : List SharedChannel := []

namespace Registry

/-- The registry as an interning table: it gives channels the number of their transport. -/
def table (r : Registry) : InternTable String := ⟨r.entries, r.transports.length⟩

/-- Make a `SharedChannel`, and register it under the key, if there is one. -/
def add (r : Registry) (key : Option String) (e : Endpoint) : Registry where
  entries := (r.table.extend key).entries
  transports := r.transports ++ [{ channel := e }]

@[simp] theorem table_add (r : Registry) (key : Option String) (e : Endpoint) :
    (r.add key e).table = r.table.extend key := by
  simp [table, add, InternTable.extend]

end Registry

/-- The transport for a channel: the registered one, or a new one. -/
def sharedChannel (runtime : Except String Unit) (target : String) (args : ZendHashTable)
    (tls : Option ClientTlsConfig) (key : Option String) : Fallible PhpException Registry ℕ := do
  match ← .gets fun r ↦ r.table.find? key with
  | some shared => pure shared
  | none =>
      let e ← .lift (buildEndpoint X runtime target args tls)
      let shared ← .gets fun r ↦ r.transports.length
      .modify fun r ↦ r.add key e
      pure shared

/-- The object around a transport. -/
def wrapper (target : String) (args : ZendHashTable) (creds : Extracted) (shared : ℕ) :
    GrpcChannel where
  inner := some
    { shared, target
      callPlugin := creds.callPlugin
      maxDecodingMessageSize := messageSizeLimit args "grpc.max_receive_message_length"
      maxEncodingMessageSize := messageSizeLimit args "grpc.max_send_message_length" }

/-- `GrpcChannel::__construct`. -/
def GrpcChannel.construct (heap : CredentialsHeap) (runtime : Except String Unit) (target : String)
    (args : ZendHashTable) : Fallible PhpException Registry GrpcChannel := do
  let scan ← .lift (scanArgs X args)
  let creds ← .lift (extractCredentials heap args)
  let shared ← sharedChannel X runtime target args creds.tlsConfig (persistKey target scan creds)
  pure (wrapper target args creds shared)

/-- `GrpcChannel::close`. -/
def GrpcChannel.close (_ : GrpcChannel) : GrpcChannel := ⟨none, true⟩

/-! ## What the constructor does -/

/-- The two ways a constructor gets a transport. -/
inductive Obtained (runtime : Except String Unit) (target : String) (args : ZendHashTable)
    (tls : Option ClientTlsConfig) (key : Option String) (r : Registry) : ℕ → Registry → Prop
  | /-- The transport was registered before. -/
    reused {shared : ℕ} : r.table.find? key = some shared →
      Obtained runtime target args tls key r shared r
  | /-- A new transport was built. -/
    built {e : Endpoint} : r.table.find? key = none →
      buildEndpoint X runtime target args tls = .ok e →
      Obtained runtime target args tls key r r.transports.length (r.add key e)

variable {X} {heap : CredentialsHeap} {runtime : Except String Unit} {target : String}
  {args : ZendHashTable} {tls : Option ClientTlsConfig} {key : Option String} {r r' : Registry}

/-- The credentials a channel is constructed with, if any. -/
def credentialsArg (args : ZendHashTable) : Option ℕ := match args.get? "credentials" with
  | some (.channelCredentials handle) => some handle
  | _ => none

/-- What a constructor takes from credentials. -/
theorem extractCredentials_eq {handle : ℕ} {c : GrpcChannelCredentials}
    (hargs : args.get? "credentials" = some (.channelCredentials handle))
    (hc : heap.get? handle = some c) :
    extractCredentials heap args = .ok ⟨some c.inner.tlsConfig, c.inner.callPlugin, c.id⟩ := by
  simp [extractCredentials, hargs, hc]

/-- What was taken belongs to the credentials of the arguments. -/
theorem extractCredentials_cases {creds : Extracted}
    (h : extractCredentials heap args = .ok creds) :
    credentialsArg args = none ∧ creds = {} ∨ ∃ handle c, credentialsArg args = some handle
      ∧ heap.get? handle = some c
      ∧ creds = ⟨some c.inner.tlsConfig, c.inner.callPlugin, c.id⟩ := by
  unfold extractCredentials at h
  unfold credentialsArg
  split at h
  · next hargs =>
    cases h
    exact .inl ⟨by rw [hargs], rfl⟩
  · next hargs =>
    cases h
    exact .inl ⟨by rw [hargs], rfl⟩
  · next handle hargs =>
    split at h
    · next c hc =>
      cases h
      exact .inr ⟨handle, c, by rw [hargs], hc, rfl⟩
    · cases h
  · cases h

/-- What can be taken from credentials does not change. -/
theorem extractCredentials_step {heap' : CredentialsHeap} {a : CredentialsAction}
    (hs : heap.step a = some heap') {creds : Extracted}
    (h : extractCredentials heap args = .ok creds) : extractCredentials heap' args = .ok creds := by
  unfold extractCredentials at h ⊢
  split at h
  · exact h
  · exact h
  · next handle _ =>
    split at h
    · next c hc => simpa [CredentialsHeap.step_get? hs hc] using h
    · cases h
  · cases h

theorem sharedChannel_cases {res : Except PhpException ℕ}
    (h : sharedChannel X runtime target args tls key r = (res, r')) :
    (∃ e, res = .error e ∧ r' = r)
      ∨ ∃ shared, res = .ok shared ∧ Obtained X runtime target args tls key r shared r' := by
  rcases Fallible.bind_inv h with ⟨found, r₁, hgets, h⟩ | ⟨e, hgets, -⟩
  · obtain ⟨hfound, rfl⟩ := Prod.mk.inj hgets
    cases hf : r.table.find? key with
    | some shared =>
        obtain rfl := (Except.ok.inj hfound).symm.trans hf
        cases h
        exact .inr ⟨shared, rfl, .reused hf⟩
    | none =>
        obtain rfl := (Except.ok.inj hfound).symm.trans hf
        rcases Fallible.bind_inv h with ⟨e, r₂, hlift, h⟩ | ⟨e, hlift, rfl⟩
        · obtain ⟨hbuild, rfl⟩ := Prod.mk.inj hlift
          cases h
          exact .inr ⟨_, rfl, .built hf hbuild⟩
        · exact .inl ⟨e, rfl, (Prod.mk.inj hlift).2.symm⟩
  · cases (Prod.mk.inj hgets).1

/-- However a transport was obtained, the registry has answered one more request. -/
theorem Obtained.serves {shared : ℕ} {served : List (Option String × ℕ)}
    (ho : Obtained X runtime target args tls key r shared r') (h : r.table.Serves served) :
    r'.table.Serves (served ++ [(key, shared)]) := by
  cases ho with
  | reused hf => exact h.found hf
  | built hf _ => exact Registry.table_add r key _ ▸ h.extend hf

/-- **What the constructor does**: it raises and leaves the registry as it is, or its
arguments are accepted and it returns an object around a transport it obtained. -/
theorem construct_cases {res : Except PhpException GrpcChannel}
    (h : GrpcChannel.construct X heap runtime target args r = (res, r')) :
    (∃ e, res = .error e ∧ r' = r) ∨ ∃ scan creds shared, scanArgs X args = .ok scan
      ∧ extractCredentials heap args = .ok creds ∧ res = .ok (wrapper target args creds shared)
      ∧ Obtained X runtime target args creds.tlsConfig (persistKey target scan creds) r shared
        r' := by
  rcases Fallible.bind_inv h with ⟨scan, r₁, hlift, h⟩ | ⟨e, hlift, rfl⟩
  · obtain ⟨hscan, rfl⟩ := Prod.mk.inj hlift
    rcases Fallible.bind_inv h with ⟨creds, r₂, hlift', h⟩ | ⟨e, hlift', rfl⟩
    · obtain ⟨hcreds, rfl⟩ := Prod.mk.inj hlift'
      rcases Fallible.bind_inv h with ⟨shared, r₃, hshared, h⟩ | ⟨e, hshared, rfl⟩
      · cases h
        rcases sharedChannel_cases hshared with ⟨e, he, -⟩ | ⟨shared', he, ho⟩
        · cases he
        · cases he
          exact .inr ⟨scan, creds, shared, hscan, hcreds, rfl, ho⟩
      · rcases sharedChannel_cases hshared with ⟨e', -, hr⟩ | ⟨shared, he, -⟩
        · exact .inl ⟨e, rfl, hr⟩
        · cases he
    · exact .inl ⟨e, rfl, (Prod.mk.inj hlift').2.symm⟩
  · exact .inl ⟨e, rfl, (Prod.mk.inj hlift).2.symm⟩

/-- A constructor that raises leaves the registry alone. -/
theorem construct_error {e : PhpException}
    (h : GrpcChannel.construct X heap runtime target args r = (.error e, r')) : r' = r := by
  rcases construct_cases h with ⟨_, -, hr⟩ | ⟨_, _, _, -, -, hok, -⟩
  · exact hr
  · cases hok

end GrpcPhp
