import GrpcPhp.Call.State
import GrpcPhp.Lib.Intern
import GrpcPhp.Lib.Run

/-!
# Channel credentials

`Grpc\ChannelCredentials` objects (`credentials.rs`): `createSsl` and `createDefault` make a
TLS configuration, and `createComposite` puts a call plugin beside the configuration of
credentials that exist already.  Every object gets an id from a counter of the process; the
constructor of a channel uses it to tell credentials apart.

The objects of a PHP thread live in a heap, oldest first, under the number PHP refers to
them by.  An entry of the heap also says how the object was made, which is what "nesting"
means: `Innermost` follows `createComposite` down to the credentials it started from.
-/

namespace GrpcPhp

open Lib Php

/-! ## The objects -/

/-- `ClientTlsConfig`, as the texts it is made from. -/
structure ClientTlsConfig where
  webpkiRoots : Bool := false
  caCertificate : Option String := none
  /-- The certificate chain and the private key. -/
  identity : Option (String × String) := none
  domainName : Option String := none
deriving DecidableEq, Repr

/-- `CredentialsInner`. -/
inductive CredentialsInner where
  | ssl (tlsConfig : ClientTlsConfig)
  | composite (tlsConfig : ClientTlsConfig) (callPlugin : PluginRef)
deriving DecidableEq, Repr

namespace CredentialsInner

/-- The TLS configuration. -/
def tlsConfig : CredentialsInner → ClientTlsConfig
  | .ssl tls | .composite tls _ => tls

/-- The call plugin. -/
def callPlugin : CredentialsInner → Option PluginRef
  | .ssl _ => none
  | .composite _ plugin => some plugin

end CredentialsInner

/-- `GrpcChannelCredentials`. -/
structure GrpcChannelCredentials where
  inner : CredentialsInner
  id : ℕ
deriving DecidableEq, Repr

/-! ## Making them -/

/-- The statics of `credentials.rs`.  The counter of `next_credentials_id` has 64 bits; kept
here is one more than the number of ids taken so far. -/
structure Statics where
  next : ℕ := 1
  defaultRootsPem : Option String := none

/-- `next_credentials_id`: `fetch_add` wraps around. -/
def nextCredentialsId (s : Statics) : ℕ × Statics :=
  (s.next % 2 ^ 64, { s with next := s.next + 1 })

/-- `create_ssl`. -/
def createSsl (pemRootCerts pemPrivateKey pemCertChain : Option String) (s : Statics) :
    GrpcChannelCredentials × Statics :=
  let tls : ClientTlsConfig :=
    { webpkiRoots := true
      caCertificate := pemRootCerts.or s.defaultRootsPem
      identity := pemCertChain.bind fun chain ↦ pemPrivateKey.map fun key ↦ (chain, key) }
  let (id, s) := nextCredentialsId s
  (⟨.ssl tls, id⟩, s)

/-- `create_default`. -/
def createDefault (s : Statics) : GrpcChannelCredentials × Statics :=
  let tls : ClientTlsConfig := { webpkiRoots := true, caCertificate := s.defaultRootsPem }
  let (id, s) := nextCredentialsId s
  (⟨.ssl tls, id⟩, s)

/-- `create_composite`. -/
def createComposite (channelCreds : GrpcChannelCredentials) (callCreds : PluginRef) (s : Statics) :
    GrpcChannelCredentials × Statics :=
  let (id, s) := nextCredentialsId s
  (⟨.composite channelCreds.inner.tlsConfig callCreds, id⟩, s)

/-- How credentials are made; `createComposite` is given existing ones. -/
inductive Origin where
  | createSsl (pemRootCerts pemPrivateKey pemCertChain : Option String)
  | createDefault
  | createComposite (channelCreds : ℕ) (callCreds : PluginRef)
deriving DecidableEq, Repr

/-- The credentials of a PHP thread, and the statics it shares with the other threads. -/
structure CredentialsHeap where
  statics : Statics := {}
  objects : List (Origin × GrpcChannelCredentials) := []

/-- What concerns credentials. -/
inductive CredentialsAction where
  /-- This thread makes credentials. -/
  | create (origin : Origin)
  /-- Another thread makes credentials. -/
  | createElsewhere
  /-- `setDefaultRootsPem`, on any thread. -/
  | setDefaultRootsPem (pem : String)
  /-- `invalidateDefaultRootsPem`, on any thread. -/
  | invalidateDefaultRootsPem

namespace CredentialsHeap

/-- The credentials a handle refers to. -/
def get? (h : CredentialsHeap) (handle : ℕ) : Option GrpcChannelCredentials :=
  h.objects[handle]?.map Prod.snd

/-- Make credentials; PHP can only pass credentials that exist. -/
def make (h : CredentialsHeap) : Origin → Option (GrpcChannelCredentials × Statics)
  | .createSsl roots key chain => some (GrpcPhp.createSsl roots key chain h.statics)
  | .createDefault => some (GrpcPhp.createDefault h.statics)
  | .createComposite channelCreds callCreds =>
      (h.get? channelCreds).map fun c ↦ GrpcPhp.createComposite c callCreds h.statics

/-- One step. -/
def step (h : CredentialsHeap) : CredentialsAction → Option CredentialsHeap
  | .create origin => (h.make origin).map fun p ↦ ⟨p.2, h.objects ++ [(origin, p.1)]⟩
  | .createElsewhere => some { h with statics := (nextCredentialsId h.statics).2 }
  | .setDefaultRootsPem pem => some { h with statics.defaultRootsPem := some pem }
  | .invalidateDefaultRootsPem => some { h with statics.defaultRootsPem := none }

variable {h h' : CredentialsHeap} {a : CredentialsAction}

/-- A step makes one object and takes one id, or leaves the objects alone. -/
theorem step_cases (hs : h.step a = some h') :
    (∃ origin c, a = .create origin ∧ h.make origin = some (c, h'.statics)
        ∧ h'.objects = h.objects ++ [(origin, c)])
      ∨ h'.objects = h.objects ∧ h.statics.next ≤ h'.statics.next := by
  cases a with
  | create origin =>
      obtain ⟨⟨c, s⟩, hmake, rfl⟩ := Option.map_eq_some_iff.mp hs
      exact .inl ⟨origin, c, rfl, hmake, rfl⟩
  | createElsewhere =>
      cases hs
      exact .inr ⟨rfl, Nat.le_succ _⟩
  | setDefaultRootsPem pem =>
      cases hs
      exact .inr ⟨rfl, le_rfl⟩
  | invalidateDefaultRootsPem =>
      cases hs
      exact .inr ⟨rfl, le_rfl⟩

/-- Whatever is made gets the next id, and nothing else of the statics changes. -/
theorem make_id {origin : Origin} {c : GrpcChannelCredentials} {s : Statics}
    (hm : h.make origin = some (c, s)) :
    c.id = h.statics.next % 2 ^ 64 ∧ s = { h.statics with next := h.statics.next + 1 } := by
  cases origin with
  | createSsl roots key chain =>
      cases hm
      exact ⟨rfl, rfl⟩
  | createDefault =>
      cases hm
      exact ⟨rfl, rfl⟩
  | createComposite channelCreds callCreds =>
      obtain ⟨c', -, heq⟩ := Option.map_eq_some_iff.mp hm
      cases heq
      exact ⟨rfl, rfl⟩

/-- An object keeps its handle. -/
theorem step_get? (hs : h.step a = some h') {handle : ℕ} {c : GrpcChannelCredentials}
    (hc : h.get? handle = some c) : h'.get? handle = some c := by
  obtain ⟨⟨origin, c⟩, hget, rfl⟩ := Option.map_eq_some_iff.mp hc
  rcases step_cases hs with ⟨origin', c', -, -, hobj⟩ | ⟨hobj, -⟩
  · rw [get?, hobj, getElem?_append_of_eq_some hget]
    rfl
  · rw [get?, hobj, hget]
    rfl

end CredentialsHeap

/-! ## Nesting -/

/-- Following `createComposite` from an object leads to credentials made by `createSsl` or
`createDefault` with the given configuration. -/
inductive Innermost (objects : List (Origin × GrpcChannelCredentials)) : ℕ → ClientTlsConfig → Prop
  | /-- An object of `createSsl`. -/
    ssl {handle : ℕ} {roots key chain : Option String} {c : GrpcChannelCredentials} :
      objects[handle]? = some (.createSsl roots key chain, c) →
        Innermost objects handle c.inner.tlsConfig
  | /-- An object of `createDefault`. -/
    default {handle : ℕ} {c : GrpcChannelCredentials} :
      objects[handle]? = some (.createDefault, c) → Innermost objects handle c.inner.tlsConfig
  | /-- An object of `createComposite`. -/
    composite {handle channelCreds : ℕ} {callCreds : PluginRef} {c : GrpcChannelCredentials}
      {tls : ClientTlsConfig} :
      objects[handle]? = some (.createComposite channelCreds callCreds, c) →
        Innermost objects channelCreds tls → Innermost objects handle tls

/-- New objects change nothing about the old ones. -/
theorem Innermost.append {objects : List (Origin × GrpcChannelCredentials)} {handle : ℕ}
    {tls : ClientTlsConfig} (h : Innermost objects handle tls)
    (new : List (Origin × GrpcChannelCredentials)) : Innermost (objects ++ new) handle tls := by
  induction h with
  | ssl hc => exact .ssl (getElem?_append_of_eq_some hc new)
  | default hc => exact .default (getElem?_append_of_eq_some hc new)
  | composite hc _ ih => exact .composite (getElem?_append_of_eq_some hc new) ih

namespace CredentialsHeap

variable {h h' : CredentialsHeap}

/-- Every object has the configuration of its innermost credentials. -/
def Nested (h : CredentialsHeap) : Prop :=
  ∀ handle c, h.get? handle = some c → Innermost h.objects handle c.inner.tlsConfig

/-- A step keeps it. -/
theorem Nested.step (hn : h.Nested) {a : CredentialsAction} (hs : h.step a = some h') :
    h'.Nested := by
  intro handle c hc
  obtain ⟨⟨origin, c⟩, hget, rfl⟩ := Option.map_eq_some_iff.mp hc
  rcases step_cases hs with ⟨origin', c', -, hmake, hobj⟩ | ⟨hobj, -⟩
  · rw [hobj] at hget ⊢
    rcases getElem?_concat_eq_some hget with hold | ⟨rfl, heq⟩
    · exact (hn handle c (by simp [get?, hold])).append _
    · -- the object that was just made
      cases heq
      cases origin with
      | createSsl roots key chain => exact .ssl hget
      | createDefault => exact .default hget
      | createComposite channelCreds callCreds =>
          obtain ⟨base, hbase, heq⟩ := Option.map_eq_some_iff.mp hmake
          obtain rfl := congrArg Prod.fst heq
          exact .composite hget ((hn channelCreds base hbase).append _)
  · rw [hobj] at hget ⊢
    exact hn handle c (by simp [get?, hget])

/-! ## Identity -/

/-- The counter has not wrapped around when credentials are made. -/
def IdsLeft (h : CredentialsHeap) : CredentialsAction → Prop
  | .create _ => h.statics.next < 2 ^ 64
  | .createElsewhere | .setDefaultRootsPem _ | .invalidateDefaultRootsPem => True

/-- The ids of the objects are positive, below the counter, and increase. -/
structure Numbered (h : CredentialsHeap) : Prop where
  pos : 0 < h.statics.next
  range : ∀ o ∈ h.objects, 0 < o.2.id ∧ o.2.id < h.statics.next
  increasing : h.objects.Pairwise fun o o' ↦ o.2.id < o'.2.id

/-- No credentials were made yet. -/
theorem Numbered.empty : Numbered {} :=
  ⟨Nat.one_pos, fun _ ho ↦ absurd ho List.not_mem_nil, .nil⟩

theorem Numbered.id_pos (hn : h.Numbered) {i : ℕ} {c : GrpcChannelCredentials}
    (hi : h.get? i = some c) : 0 < c.id := by
  obtain ⟨o, hget, rfl⟩ := Option.map_eq_some_iff.mp hi
  exact (hn.range o (List.mem_of_getElem? hget)).1

/-- A step keeps it, unless the counter has wrapped around. -/
theorem Numbered.step (hn : h.Numbered) {a : CredentialsAction} (hl : h.IdsLeft a)
    (hs : h.step a = some h') : h'.Numbered := by
  rcases step_cases hs with ⟨origin, c, rfl, hmake, hobj⟩ | ⟨hobj, hle⟩
  · obtain ⟨hid, hstatics⟩ := make_id hmake
    have hnext : h'.statics.next = h.statics.next + 1 := congrArg Statics.next hstatics
    rw [Nat.mod_eq_of_lt hl] at hid
    refine ⟨by omega, ?_, ?_⟩
    · intro o ho
      rw [hobj, List.mem_append, List.mem_singleton] at ho
      rcases ho with ho | rfl
      · have := hn.range o ho
        omega
      · have := hn.pos
        simp only
        omega
    · rw [hobj]
      refine List.pairwise_append.mpr ⟨hn.increasing, List.pairwise_singleton _ _, ?_⟩
      intro o ho o' ho'
      obtain rfl := List.mem_singleton.mp ho'
      rw [hid]
      exact (hn.range o ho).2
  · exact ⟨by have := hn.pos; omega, fun o ho ↦ by have := hn.range o (hobj ▸ ho); omega,
      hobj ▸ hn.increasing⟩

/-- An id belongs to one object. -/
theorem Numbered.handle_eq (hn : h.Numbered) {i j : ℕ} {c c' : GrpcChannelCredentials}
    (hi : h.get? i = some c) (hj : h.get? j = some c') (hid : c.id = c'.id) : i = j := by
  obtain ⟨o, hget, rfl⟩ := Option.map_eq_some_iff.mp hi
  obtain ⟨o', hget', rfl⟩ := Option.map_eq_some_iff.mp hj
  obtain ⟨hilt, rfl⟩ := List.getElem?_eq_some_iff.mp hget
  obtain ⟨hjlt, rfl⟩ := List.getElem?_eq_some_iff.mp hget'
  have hpair := List.pairwise_iff_getElem.mp hn.increasing
  rcases Nat.lt_trichotomy i j with hlt | heq | hlt
  · exact absurd hid (hpair i j hilt hjlt hlt).ne
  · exact heq
  · exact absurd hid.symm (hpair j i hjlt hilt hlt).ne

end CredentialsHeap

end GrpcPhp
