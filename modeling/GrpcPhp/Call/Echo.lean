import GrpcPhp.Call.Collected
import GrpcPhp.Call.Parsers

/-!
# Metadata there and back

PHP hands metadata over as an array from names to lists of strings, and gets metadata as such
an array.  The two conversions do not undo each other: a request keeps one value of a name,
and what comes back is without the reserved headers and without values that are no text.  This
module says exactly what returns if a server sends the metadata of a request back
(`echo`), and that there is no second loss: sent once more, it returns as it is.

A PHP array has its string keys once, so that the pairs of a batch come in blocks of one name;
the rest is about the two tables of the transport library (`Multimap.insertAll_blocks`,
`Multimap.group_of_nodup`).
-/

namespace GrpcPhp

open Lib Php

/-- What the results here need to know about the transport library. -/
structure Tonic.Plain (T : Tonic) : Prop where
  /-- A name that PHP may send is a header name as it stands. -/
  name_eq : ∀ name key, LegalName name → T.asciiKey name = some key → key = name
  /-- The keys of texts are not those of binary values. -/
  not_binary : ∀ name key, T.asciiKey name = some key → T.binaryKey key = false
  /-- A text that was read can be written, and is then read again. -/
  text : ∀ val bytes, T.toStr val = some bytes →
    ∃ s val', bytes = toUtf8 s ∧ T.asciiValue s = some val' ∧ T.toStr val' = some bytes

/-! ## One name -/

/-- The name of an entry. -/
def entryName (e : ArrayKey × Zval) : String := (arrayKeyToString e.1).getD ""

/-- The pairs of an entry. -/
def entryPairs (e : ArrayKey × Zval) : Pairs := namedStrings (entryName e) (e.2.array?.getD [])

/-- What returns of an entry: under a name that is not reserved the last value that can be
sent, if it is a text. -/
def echo (T : Tonic) (e : ArrayKey × Zval) : Option (String × List Bytes) :=
  if isReservedHeader (entryName e) then none
  else ((lastValue T (entryPairs e) (entryName e)).bind T.toStr).map fun bytes ↦
    (entryName e, [bytes])

variable {T : Tonic} {entries : ZendHashTable} {e : ArrayKey × Zval}

/-- The pairs of an entry have its name. -/
theorem fst_of_mem_entryPairs {p : String × String} (hp : p ∈ entryPairs e) :
    p.1 = entryName e := by
  obtain ⟨v, -, hv⟩ := List.mem_filterMap.mp hp
  obtain ⟨bytes, -, rfl⟩ := Option.map_eq_some_iff.mp hv
  rfl

/-- The name of an accepted entry is legal. -/
theorem NamedStrings.legalName (h : NamedStrings e) : LegalName (entryName e) := by
  obtain ⟨⟨name, hname, hlegal⟩, -⟩ := h
  rw [entryName, hname]
  exact hlegal

/-- The pairs of an accepted entry are sent under its name. -/
theorem parsePair_fst (hT : T.Plain) (h : NamedStrings e) {p : String × String}
    (hp : p ∈ entryPairs e) {kv : String × Bytes} (hkv : parsePair T p = some kv) :
    kv.1 = entryName e ∧ T.asciiKey (entryName e) = some (entryName e) := by
  obtain ⟨key, hkey, hval⟩ := Option.bind_eq_some_iff.mp hkv
  obtain ⟨val, -, rfl⟩ := Option.map_eq_some_iff.mp hval
  rw [fst_of_mem_entryPairs hp] at hkey
  obtain rfl := hT.name_eq _ _ h.legalName hkey
  exact ⟨rfl, hkey⟩

/-- A value that is sent belongs to a key of texts. -/
theorem asciiKey_of_lastValue (hT : T.Plain) (h : NamedStrings e) {val : Bytes}
    (hval : lastValue T (entryPairs e) (entryName e) = some val) :
    T.asciiKey (entryName e) = some (entryName e) := by
  obtain ⟨kv, hmem, -⟩ := List.mem_filterMap.mp (List.mem_of_getLast? hval)
  obtain ⟨p, hp, hkv⟩ := List.mem_filterMap.mp hmem
  exact (parsePair_fst hT h hp hkv).2

/-! ## A whole array -/

/-- Different names go into the request as they come, each with one value. -/
theorem requestMetadata_flattened (hT : T.Plain) (hnamed : ∀ e ∈ entries, NamedStrings e)
    (hnodup : (entries.map entryName).Nodup) :
    requestMetadata T (flattened (.array entries)) []
      = entries.filterMap fun e ↦ (lastValue T (entryPairs e) (entryName e)).map fun val ↦
        (entryName e, val) := by
  let blocks := entries.map fun e ↦ (entryName e, entryPairs e)
  have hfst : blocks.map Prod.fst = entries.map entryName := List.map_map
  have hpairs : flattened (.array entries) = blocks.flatMap Prod.snd := by
    rw [List.flatMap_map]
    rfl
  rw [requestMetadata_eq, List.append_nil, hpairs,
    Multimap.insertAll_blocks _ (hfst ▸ hnodup), List.filterMap_map]
  · rfl
  · intro b hb p hp kv hkv
    obtain ⟨e, he, rfl⟩ := List.mem_map.mp hb
    exact (parsePair_fst hT (hnamed e he) hp hkv).1

/-- The names of some entries are different if those of all entries are. -/
theorem nodup_of_filterMap {α β : Type*} {f : α → Option (String × β)} {name : α → String}
    {l : List α} (hf : ∀ a b, f a = some b → b.1 = name a) (h : (l.map name).Nodup) :
    ((l.filterMap f).map Prod.fst).Nodup := by
  rw [List.map_filterMap]
  refine h.sublist (filterMap_sublist_map ?_ l)
  intro a b hb
  obtain ⟨p, hp, rfl⟩ := Option.map_eq_some_iff.mp hb
  exact hf a p hp

/-- A received map without repeated keys has one group for each value that decodes. -/
theorem metadataToPhp_of_nodup {map : MetadataMap} (h : (map.map Prod.fst).Nodup) :
    metadataToPhp T map = map.filterMap fun kv ↦
      if isReservedHeader kv.1 then none
      else (decodeEntry T kv).map fun bytes ↦ (kv.1, [bytes]) := by
  have hdecoded : ((decoded T map).map Prod.fst).Nodup := by
    refine nodup_of_filterMap (fun kv p hp ↦ ?_) h
    obtain ⟨bytes, -, rfl⟩ := Option.map_eq_some_iff.mp hp
    rfl
  rw [metadataToPhp, collectMetadata_eq, Multimap.group_of_nodup hdecoded, decoded,
    List.map_filterMap, List.filter_filterMap]
  congr 1
  funext kv
  cases decodeEntry T kv with
  | none => simp
  | some bytes => cases hres : isReservedHeader kv.1 <;> simp [hres]

/-- What returns of an accepted array. -/
theorem metadataToPhp_requestMetadata (hT : T.Plain) (hnamed : ∀ e ∈ entries, NamedStrings e)
    (hnodup : (entries.map entryName).Nodup) :
    metadataToPhp T (requestMetadata T (flattened (.array entries)) [])
      = entries.filterMap (echo T) := by
  rw [requestMetadata_flattened hT hnamed hnodup, metadataToPhp_of_nodup, List.filterMap_filterMap]
  · refine List.filterMap_congr fun e he ↦ ?_
    cases hval : lastValue T (entryPairs e) (entryName e) with
    | none => simp [echo, hval]
    | some val =>
        have hkey := asciiKey_of_lastValue hT (hnamed e he) hval
        simp [echo, hval, decodeEntry, hT.not_binary _ _ hkey]
  · refine nodup_of_filterMap (fun e kv hkv ↦ ?_) hnodup
    obtain ⟨val, -, rfl⟩ := Option.map_eq_some_iff.mp hkv
    rfl

/-- A PHP array has every name once. -/
theorem Php.PhpArray.nodup_entryName {array : PhpArray}
    (hnamed : ∀ e ∈ array.entries, NamedStrings e) : (array.entries.map entryName).Nodup := by
  have hbytes : ∀ e ∈ array.entries, e.1.bytes? = some (toUtf8 (entryName e)) := by
    intro e he
    obtain ⟨⟨name, hname, -⟩, -⟩ := hnamed e he
    rw [entryName, hname]
    obtain ⟨key, val⟩ := e
    cases key with
    | long n => cases hname
    | string s =>
        cases hname
        rfl
    | str s =>
        cases hname
        rfl
    | zendString bytes => exact congrArg some (fromUtf8_eq_some_iff.mp hname)
  have hnodup := array.nodup
  rw [List.filterMap_congr hbytes, List.filterMap_eq_map'] at hnodup
  exact List.Nodup.of_map toUtf8 (by rwa [List.map_map])

/-! ## Back again -/

/-- An array that holds some groups of values under their names, in order. -/
def Holds (table : ZendHashTable) (groups : MetadataEntries) : Prop :=
  List.Forall₂ (fun e g ↦ arrayKeyToString e.1 = some g.1
    ∧ ∃ values, e.2 = .array values ∧ values.map Prod.snd = g.2.map Zval.string) table groups

/-- A group that returned returns again. -/
theorem echo_of_echo (hT : T.Plain) (h : NamedStrings e) {g : String × List Bytes}
    (hg : echo T e = some g) {e' : ArrayKey × Zval} (hkey : arrayKeyToString e'.1 = some g.1)
    {values : ZendHashTable} (hvalues : e'.2 = .array values)
    (hstrings : values.map Prod.snd = g.2.map Zval.string) :
    NamedStrings e' ∧ echo T e' = some g := by
  obtain ⟨hres, hg⟩ := Option.ite_none_left_eq_some.mp hg
  obtain ⟨bytes, hbytes, rfl⟩ := Option.map_eq_some_iff.mp hg
  obtain ⟨val, hval, htext⟩ := Option.bind_eq_some_iff.mp hbytes
  obtain ⟨s, val', rfl, hs, hagain⟩ := hT.text val bytes htext
  have hname : entryName e' = entryName e := by rw [entryName, hkey, Option.getD_some]
  -- the array has the one string of the group
  obtain ⟨⟨idx, v⟩, rfl⟩ : ∃ v, values = [v] := by
    have hlen := congrArg List.length hstrings
    simp only [List.length_map, List.length_singleton] at hlen
    exact List.length_eq_one_iff.mp hlen
  obtain rfl : v = .string (toUtf8 s) := by simpa using hstrings
  refine ⟨⟨⟨_, hkey, h.legalName⟩, _, hvalues, ?_⟩, ?_⟩
  · intro v hv
    obtain rfl := List.mem_singleton.mp hv
    exact ⟨_, rfl⟩
  · have hpairs : entryPairs e' = [(entryName e, s)] := by
      rw [entryPairs, hname, hvalues]
      simp [namedStrings, Zval.array?, Zval.zendStr?, fromUtf8Lossy_toUtf8]
    have hlast : lastValue T (entryPairs e') (entryName e') = some val' := by
      rw [hpairs, hname]
      simp [lastValue, Multimap.lastValid, parsePair, asciiKey_of_lastValue hT h hval, hs]
    rw [echo, hlast, hname, if_neg hres]
    simp [hagain]

/-- An array of groups that returned is accepted, and returns. -/
theorem Holds.returns (hT : T.Plain) {table : ZendHashTable} {groups : MetadataEntries}
    (h : Holds table groups) (hgroups : ∀ g ∈ groups, ∃ e, NamedStrings e ∧ echo T e = some g) :
    (∀ e ∈ table, NamedStrings e) ∧ table.filterMap (echo T) = groups := by
  induction h with
  | nil => exact ⟨fun _ he ↦ absurd he List.not_mem_nil, rfl⟩
  | cons hhead _ ih =>
      obtain ⟨⟨e, he, hg⟩, hgroups⟩ := List.forall_mem_cons.mp hgroups
      obtain ⟨hkey, values, hvalues, hstrings⟩ := hhead
      obtain ⟨hnamed, hecho⟩ := echo_of_echo hT he hg hkey hvalues hstrings
      obtain ⟨hrest, heq⟩ := ih hgroups
      exact ⟨List.forall_mem_cons.mpr ⟨hnamed, hrest⟩, by rw [List.filterMap_cons_some hecho, heq]⟩

/-- The names of an array are those of the groups it holds. -/
theorem Holds.map_entryName {table : ZendHashTable} {groups : MetadataEntries}
    (h : Holds table groups) : table.map entryName = groups.map Prod.fst := by
  induction h with
  | nil => rfl
  | cons hhead _ ih => rw [List.map_cons, List.map_cons, ih, entryName, hhead.1, Option.getD_some]

/-- The library on ASCII input is one the result is about. -/
theorem Tonic.ascii_plain : Tonic.ascii.Plain where
  name_eq := by
    intro name key _ h
    exact (Option.some.inj (Option.ite_none_right_eq_some.mp h).2).symm
  not_binary _ _ _ := rfl
  text := by
    intro val bytes h
    obtain ⟨hall, heq⟩ := Option.ite_none_right_eq_some.mp h
    obtain rfl := Option.some.inj heq
    have hbyte : ∀ b ∈ val, 32 ≤ b.toNat ∧ b.toNat < 127 := by
      intro b hb
      have := List.all_eq_true.mp hall b hb
      simpa [UInt8.le_iff_toNat_le, UInt8.lt_iff_toNat_lt] using this
    have hchar : ∀ b ∈ val, (Char.ofNat b.toNat).toNat = b.toNat := fun b hb ↦
      Utf8.val_ofNat (.inl (by have := hbyte b hb; omega))
    have henc : ∀ b ∈ val, String.utf8EncodeChar (Char.ofNat b.toNat) = [b] := fun b hb ↦
      Utf8.utf8EncodeChar_one (by have := hbyte b hb; omega)
    refine ⟨String.ofList (val.map fun b ↦ Char.ofNat b.toNat), val, ?_, ?_, h⟩
    · rw [toUtf8_eq, String.toList_ofList, List.flatMap_map, List.flatMap_congr henc,
        List.flatMap_singleton']
    · refine (if_pos ?_).trans (congrArg some ?_)
      · rw [String.toList_ofList, List.all_map, List.all_eq_true]
        intro b hb
        have := hbyte b hb
        have hle (c d : Char) : c ≤ d ↔ c.toNat ≤ d.toNat := Iff.rfl
        simp only [Function.comp_apply, Bool.and_eq_true, decide_eq_true_eq, hle, hchar b hb]
        exact ⟨this.1, Nat.le_of_lt_succ this.2⟩
      · rw [String.toList_ofList, List.map_map]
        exact (List.map_congr_left fun b hb ↦ by
          rw [Function.comp_apply, hchar b hb, UInt8.ofNat_toNat, id]).trans (List.map_id val)

/-- Two values of one name, a reserved name, a value that cannot be sent, and another name. -/
def Php.PhpArray.mixed : PhpArray where
  entries := [(.str "a", .array [(.long I64.zero, .string [49]), (.long I64.one, .string [50])]),
    (.str "grpc-status", .array [(.long I64.zero, .string [48])]),
    (.str "b", .array [(.long I64.zero, .string [1])]),
    (.str "c", .array [(.long I64.zero, .string [51])])]
  nodup := by decide

end GrpcPhp
