import GrpcPhp.Channel.Construct
import GrpcPhp.Lib.Joined
import Mathlib.Data.List.Perm.Basic

/-!
# The text a channel is registered under

What a channel is constructed from is a target, credentials and a map from keys to integers
or strings.  The registry knows it only as a text: `persistKey` writes the target, the id of
the credentials and the sorted arguments one after the other, without escaping anything.

The text does not depend on the order of the arguments (`persistKey_eq_of_perm`).  It can be
read back, so that different channels have different texts, if the target and the arguments
keep clear of its separators, and no string looks like an integer (`persistKey_inj`).
-/

namespace GrpcPhp

open Lib Php

/-! ## Arguments as a map -/

/-- The value of a channel argument. -/
inductive ArgValue where
  | int (n : I64)
  | string (text : String)
deriving DecidableEq, Repr

namespace ArgValue

/-- The values the constructor accepts. -/
def ofZval? (z : Zval) : Option ArgValue := match z.long? with
  | some n => some (.int n)
  | none => z.string?.map .string

/-- How a value is written. -/
def text : ArgValue → String
  | .int n => toString n.val
  | .string s => s

end ArgValue

theorem argText_eq (z : Zval) : argText z = (ArgValue.ofZval? z).map ArgValue.text := by
  unfold argText ArgValue.ofZval?
  cases z.long? with
  | some n => rfl
  | none => simp [ArgValue.text, Function.comp_def]

section

variable (X : Transport)

/-- A channel argument, unless it is `credentials` or `force_new`. -/
def plainArg (e : ArrayKey × Zval) : Option (Bytes × ArgValue) := e.1.bytes?.bind fun k ↦
  if X.keyText k = "credentials" ∨ X.keyText k = "force_new" then none
  else (ArgValue.ofZval? e.2).map fun v ↦ (k, v)

/-- The channel arguments, without `credentials` and `force_new`. -/
def plainArgs (args : ZendHashTable) : List (Bytes × ArgValue) := args.filterMap (plainArg X)

/-- The channel arguments as a map. -/
def argMap (args : PhpArray) (k : Bytes) : Option ArgValue := (plainArgs X args.entries).lookup k

/-- How an argument is written. -/
def part (p : Bytes × ArgValue) : String := X.keyText p.1 ++ "=" ++ p.2.text

/-- The last word on `force_new`. -/
def forceNew (args : ZendHashTable) : Bool :=
  args.foldl (fun b e ↦ if X.keyToString e.1 = some "force_new" then isForced e.2 else b) false

end

variable {X : Transport} {args args' : ZendHashTable} {scan scan' : ArgScan}
  {target target' : String}
  {creds creds' : Extracted}

/-- A key is displayed by its bytes. -/
theorem keyToString_eq (key : ArrayKey) : X.keyToString key = key.bytes?.map X.keyText := by
  cases key with
  | long n => rfl
  | string s => exact congrArg some (X.keyText_toUtf8 s).symm
  | str s => exact congrArg some (X.keyText_toUtf8 s).symm
  | zendString bytes => rfl

/-- What one argument adds. -/
theorem scanArg_eq {acc acc' : ArgScan} {e : ArrayKey × Zval} (h : scanArg X acc e = .ok acc') :
    acc'.forceNew = (if X.keyToString e.1 = some "force_new" then isForced e.2 else acc.forceNew)
      ∧ acc'.persistParts = acc.persistParts ++ (plainArg X e).toList.map (part X) := by
  rw [keyToString_eq]
  unfold scanArg at h
  rw [keyToString_eq] at h
  unfold plainArg
  cases hk : e.1.bytes? with
  | none =>
      rw [hk] at h
      cases h
  | some k =>
      simp only [hk, Option.map_some, Option.some.injEq, Option.bind_some] at h ⊢
      by_cases hc : X.keyText k = "credentials"
      · rw [if_pos hc] at h
        cases h
        simp [hc]
      · rw [if_neg hc] at h
        by_cases hf : X.keyText k = "force_new"
        · rw [if_pos hf] at h
          cases h
          simp [hf]
        · rw [if_neg hf, argText_eq] at h
          cases hv : ArgValue.ofZval? e.2 with
          | none => simp [hv] at h
          | some v =>
              simp only [hv, Option.map_some] at h
              cases h
              simp [hc, hf, part]

/-- What the loop over the arguments collects. -/
theorem scanArgs_eq (h : scanArgs X args = .ok scan) :
    scan.forceNew = forceNew X args ∧ scan.persistParts = (plainArgs X args).map (part X) := by
  suffices hfold : ∀ {acc}, args.foldlM (scanArg X) acc = .ok scan →
      scan.forceNew = args.foldl (fun b e ↦
          if X.keyToString e.1 = some "force_new" then isForced e.2 else b) acc.forceNew
        ∧ scan.persistParts = acc.persistParts ++ (plainArgs X args).map (part X) by
    simpa [forceNew] using hfold h
  clear h
  intro acc h
  induction args generalizing acc with
  | nil =>
      cases h
      simp [plainArgs]
  | cons e args ih =>
      rw [List.foldlM_cons] at h
      obtain ⟨acc', hstep, h⟩ := bind_eq_ok_iff.mp h
      obtain ⟨hforce, hparts⟩ := scanArg_eq hstep
      obtain ⟨hforce', hparts'⟩ := ih h
      refine ⟨by rw [hforce', hforce, List.foldl_cons], ?_⟩
      rw [hparts', hparts, plainArgs, plainArgs, List.filterMap_cons]
      cases plainArg X e <;> simp

/-! ## Maps and lists -/

theorem plainArg_key {e : ArrayKey × Zval} {p : Bytes × ArgValue} (h : plainArg X e = some p) :
    e.1.bytes? = some p.1 := by
  obtain ⟨k, hk, h⟩ := Option.bind_eq_some_iff.mp h
  split at h
  · cases h
  · obtain ⟨v, -, rfl⟩ := Option.map_eq_some_iff.mp h
    exact hk

/-- No argument occurs twice. -/
theorem nodup_plainArgs (X : Transport) (args : PhpArray) :
    ((plainArgs X args.entries).map Prod.fst).Nodup := by
  refine args.nodup.sublist ?_
  induction args.entries with
  | nil => exact .slnil
  | cons e entries ih =>
      unfold plainArgs at ih ⊢
      cases hp : plainArg X e with
      | none =>
          cases hk : e.1.bytes? with
          | none => simpa only [List.filterMap_cons, hp, hk] using ih
          | some k =>
              simp only [List.filterMap_cons, hp, hk]
              exact ih.cons k
      | some p =>
          simp only [List.filterMap_cons, hp, plainArg_key hp, List.map_cons]
          exact ih.cons_cons p.1

/-- In a list without double keys, the entries are what can be looked up. -/
theorem lookup_eq_some_iff_mem {κ ν : Type*} [BEq κ] [LawfulBEq κ] {l : List (κ × ν)}
    (h : (l.map Prod.fst).Nodup) {k : κ} {v : ν} : l.lookup k = some v ↔ (k, v) ∈ l := by
  induction l with
  | nil => simp
  | cons e l ih =>
      obtain ⟨k', v'⟩ := e
      rw [List.map_cons, List.nodup_cons] at h
      by_cases hk : k = k'
      · subst hk
        have hmem : (k, v) ∉ l := fun hm ↦ h.1 (List.mem_map.mpr ⟨_, hm, rfl⟩)
        simp [hmem, eq_comm]
      · simp [List.lookup_cons, beq_eq_false_iff_ne.mpr hk, hk, ih h.2]

/-- Two arrays are the same map if they have the same arguments, in any order. -/
theorem argMap_eq_iff (X : Transport) (args args' : PhpArray) :
    argMap X args = argMap X args'
      ↔ (plainArgs X args.entries).Perm (plainArgs X args'.entries) := by
  have hn := nodup_plainArgs X args
  have hn' := nodup_plainArgs X args'
  rw [List.perm_ext_iff_of_nodup hn.of_map hn'.of_map]
  constructor
  · rintro h ⟨k, v⟩
    rw [← lookup_eq_some_iff_mem hn, ← lookup_eq_some_iff_mem hn']
    exact iff_of_eq (congrArg (· = some v) (congrFun h k))
  · intro h
    funext k
    refine Option.ext fun v ↦ ?_
    exact (lookup_eq_some_iff_mem hn).trans ((h (k, v)).trans (lookup_eq_some_iff_mem hn').symm)

/-! ## The same text for the same channel -/

/-- The text does not depend on the order of the arguments. -/
theorem persistKey_eq_of_perm (hparts : scan.persistParts.Perm scan'.persistParts)
    (hforce : scan.forceNew = scan'.forceNew) :
    persistKey target scan creds = persistKey target scan' creds := by
  have hsort : scan.persistParts.insertionSort (· ≤ ·) = scan'.persistParts.insertionSort (· ≤ ·) :=
    List.Perm.eq_of_pairwise' (List.pairwise_insertionSort _ _) (List.pairwise_insertionSort _ _)
      (((List.perm_insertionSort _ _).trans hparts).trans (List.perm_insertionSort _ _).symm)
  simp [persistKey, hsort, hforce]

/-! ## Different texts for different channels -/

/-- An argument that can be read back from its text: the key is a text without separators, no
`=` follows a `,` in the value, and a string value is not the text of an integer. -/
structure Legible (X : Transport) (p : Bytes × ArgValue) : Prop where
  key_text : ∃ s, p.1 = toUtf8 s
  separated : Separated ',' '=' ((X.keyText p.1).toList, p.2.text.toList)
  typed : ∀ s, p.2 = .string s → ∀ n : I64, s ≠ toString n.val

namespace Legible

variable {p q : Bytes × ArgValue}

/-- The key is determined by how it is displayed. -/
theorem key_eq (hp : Legible X p) (hq : Legible X q) (h : X.keyText p.1 = X.keyText q.1) :
    p.1 = q.1 := by
  obtain ⟨s, hs⟩ := hp.key_text
  obtain ⟨t, ht⟩ := hq.key_text
  rw [hs, ht, X.keyText_toUtf8, X.keyText_toUtf8] at h
  rw [hs, ht, h]

/-- The value is determined by its text. -/
theorem value_eq (hp : Legible X p) (hq : Legible X q) (h : p.2.text = q.2.text) : p.2 = q.2 := by
  cases hv : p.2 with
  | int n =>
      cases hw : q.2 with
      | int m =>
          rw [hv, hw] at h
          rw [Sat.ext (intToString_inj h)]
      | string t =>
          rw [hv, hw] at h
          exact absurd h.symm (hq.typed t hw n)
  | string s =>
      cases hw : q.2 with
      | int m =>
          rw [hv, hw] at h
          exact absurd h (hp.typed s hv m)
      | string t =>
          rw [hv, hw] at h
          exact congrArg ArgValue.string h

end Legible

/-- The key and the value of an argument, as they are written. -/
def written (X : Transport) (p : Bytes × ArgValue) : List Char × List Char :=
  ((X.keyText p.1).toList, p.2.text.toList)

theorem toList_part (p : Bytes × ArgValue) : (part X p).toList = assignment '=' (written X p) := by
  simp [part, assignment, written]

/-- Lists of legible arguments that are written alike are equal. -/
theorem eq_of_map_written {ps qs : List (Bytes × ArgValue)} (hps : ∀ p ∈ ps, Legible X p)
    (hqs : ∀ q ∈ qs, Legible X q) (h : ps.map (written X) = qs.map (written X)) : ps = qs := by
  induction ps generalizing qs with
  | nil =>
      cases qs with
      | nil => rfl
      | cons q qs => cases h
  | cons p ps ih =>
      cases qs with
      | nil => cases h
      | cons q qs =>
          rw [List.map_cons, List.map_cons] at h
          obtain ⟨hhead, htail⟩ := List.cons.inj h
          obtain ⟨hkey, hvalue⟩ := Prod.mk.inj hhead
          have hp := hps p List.mem_cons_self
          have hq := hqs q List.mem_cons_self
          have hpq : p = q := Prod.ext (hp.key_eq hq (String.toList_inj.mp hkey))
            (hp.value_eq hq (String.toList_inj.mp hvalue))
          rw [hpq, ih (fun p hp ↦ hps p (List.mem_cons_of_mem _ hp))
            (fun q hq ↦ hqs q (List.mem_cons_of_mem _ hq)) htail]

/-- Sorting the texts of some arguments is writing the arguments in another order. -/
theorem exists_sorted (ps : List (Bytes × ArgValue)) :
    ∃ qs : List (Bytes × ArgValue),
      (ps.map (part X)).insertionSort (· ≤ ·) = qs.map (part X) ∧ qs.Perm ps := by
  have hcomp := congrFun₂ (List.eq_map_comp_perm (part X))
    ((ps.map (part X)).insertionSort (· ≤ ·)) ps
  exact hcomp.mpr (List.perm_insertionSort (· ≤ ·) (ps.map (part X)))

/-- Legible arguments are determined by the sorted list of their texts. -/
theorem perm_of_joined {ps ps' : List (Bytes × ArgValue)} (hps : ∀ p ∈ ps, Legible X p)
    (hps' : ∀ p ∈ ps', Legible X p)
    (h : ",".intercalate ((ps.map (part X)).insertionSort (· ≤ ·))
      = ",".intercalate ((ps'.map (part X)).insertionSort (· ≤ ·))) : ps.Perm ps' := by
  obtain ⟨qs, hqs, hperm⟩ := exists_sorted (X := X) ps
  obtain ⟨qs', hqs', hperm'⟩ := exists_sorted (X := X) ps'
  have hlegible : ∀ q ∈ qs, Legible X q := fun q hq ↦ hps q (hperm.mem_iff.mp hq)
  have hlegible' : ∀ q ∈ qs', Legible X q := fun q hq ↦ hps' q (hperm'.mem_iff.mp hq)
  have htext : [','].intercalate ((qs.map (written X)).map (assignment '='))
      = [','].intercalate ((qs'.map (written X)).map (assignment '=')) := by
    have := congrArg String.toList h
    rw [hqs, hqs'] at this
    simpa [String.toList_intercalate, Function.comp_def, toList_part] using this
  have hwritten : qs.map (written X) = qs'.map (written X) := by
    refine joined_inj (by decide) ?_ ?_ htext
    · rintro _ hp
      obtain ⟨q, hq, rfl⟩ := List.mem_map.mp hp
      exact (hlegible q hq).separated
    · rintro _ hp
      obtain ⟨q, hq, rfl⟩ := List.mem_map.mp hp
      exact (hlegible' q hq).separated
  obtain rfl := eq_of_map_written hlegible hlegible' hwritten
  exact hperm.symm.trans hperm'

/-- The id of the credentials is written without a `|`. -/
theorem bar_not_mem_natRepr (n : ℕ) : '|' ∉ (toString n).toList :=
  fun h ↦ by cases isDigit_of_mem_natRepr h

/-- **The text of a channel can be read back**: with targets that do not contain `|creds=`, and
legible arguments, channels that have the same text have the same target, credentials with
the same id, and the same arguments. -/
theorem persistKey_inj {key : String} (ht : ¬ "|creds=".toList <:+: target.toList)
    (ht' : ¬ "|creds=".toList <:+: target'.toList)
    (hscan : scanArgs X args = .ok scan) (hscan' : scanArgs X args' = .ok scan')
    (hargs : ∀ p ∈ plainArgs X args, Legible X p) (hargs' : ∀ p ∈ plainArgs X args', Legible X p)
    (hkey : persistKey target scan creds = some key)
    (hkey' : persistKey target' scan' creds' = some key) :
    target = target' ∧ creds.credsId = creds'.credsId
      ∧ (plainArgs X args).Perm (plainArgs X args') := by
  unfold persistKey at hkey hkey'
  split at hkey
  · split at hkey'
    · have htext :=
        congrArg String.toList ((Option.some.inj hkey).trans (Option.some.inj hkey').symm)
      have hsep : "|creds=".toList = '|' :: "creds=".toList := by decide
      simp only [String.toList_append, List.append_assoc] at htext
      rw [hsep] at htext ht ht'
      obtain ⟨htarget, hrest⟩ := append_separator_inj (by decide) ht ht' htext
      obtain ⟨hid, hjoined⟩ :=
        append_letter_inj (bar_not_mem_natRepr _) (bar_not_mem_natRepr _) hrest
      refine ⟨String.toList_inj.mp htarget, natRepr_inj (String.toList_inj.mp hid), ?_⟩
      refine perm_of_joined hargs hargs' ?_
      rw [← (scanArgs_eq hscan).2, ← (scanArgs_eq hscan').2]
      exact String.toList_inj.mp hjoined
    · cases hkey'
  · cases hkey

end GrpcPhp
