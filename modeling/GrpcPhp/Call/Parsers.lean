import GrpcPhp.Call.Grammar
import GrpcPhp.Lib.Utf8

/-!
# Two parsers for metadata

Metadata comes from PHP on two ways.  `parse_send_metadata` reads what a batch brings: it
refuses whatever is not an array from header names to lists of strings, and decodes the
strings with replacement.  `parse_metadata` reads what a plugin returns: it skips whatever does
not fit, strings that are not UTF-8 among it.

Where the first accepts, both read the same raw bytes (`rawPairs`), each with its own decoder.
A string that one drops is decoded by the other with U+FFFD.  So they may give different pairs,
and whether the requests differ depends on the transport library alone: they never do exactly
if it takes no value with U+FFFD.
-/

namespace GrpcPhp

open Lib Php

/-! ## Raw pairs -/

/-- The names and byte strings of an array of named strings, in iteration order. -/
def rawPairs (entries : ZendHashTable) : List (String × Bytes) :=
  entries.flatMap fun e ↦ (e.2.array?.getD []).filterMap fun v ↦
    v.2.zendStr?.map fun bytes ↦ ((arrayKeyToString e.1).getD "", bytes)

/-- A raw pair decoded with replacement. -/
def lossyPair (p : String × Bytes) : String × String := (p.1, fromUtf8Lossy p.2)

/-- A raw pair, if it is UTF-8. -/
def utf8Pair (p : String × Bytes) : Option (String × String) := (fromUtf8 p.2).map fun s ↦ (p.1, s)

theorem utf8Pair_eq_some {p : String × Bytes} {q : String × String} (h : utf8Pair p = some q) :
    q = lossyPair p := by
  obtain ⟨s, hs, rfl⟩ := Option.map_eq_some_iff.mp h
  rw [lossyPair, fromUtf8Lossy_of_fromUtf8 hs]

/-- The strict parser decodes the raw pairs with replacement. -/
theorem flattened_eq (entries : ZendHashTable) :
    flattened (.array entries) = (rawPairs entries).map lossyPair := by
  rw [rawPairs, List.map_flatMap, flattened]
  refine List.flatMap_congr fun e _ ↦ ?_
  rw [namedStrings, List.map_filterMap]
  refine List.filterMap_congr fun v _ ↦ ?_
  rw [Option.map_map]
  rfl

/-- The lenient parser keeps the raw pairs that are UTF-8, if the strict one accepts. -/
theorem parseMetadata_eq {entries : ZendHashTable} (h : ∀ e ∈ entries, NamedStrings e) :
    parseMetadata entries = (rawPairs entries).filterMap utf8Pair := by
  rw [rawPairs, List.filterMap_flatMap, parseMetadata]
  refine List.flatMap_congr fun e he ↦ ?_
  obtain ⟨key, val⟩ := e
  obtain ⟨⟨name, hk, -⟩, values, rfl, hstrings⟩ := h _ he
  simp only [hk, Zval.array?, Option.getD_some, List.filterMap_filterMap]
  refine List.filterMap_congr fun v _ ↦ ?_
  rw [Zval.string?, Option.bind_map, Option.map_bind]
  rfl

/-! ## Agreement -/

section

variable {α β : Type*} {f : α → Option β} {g : α → β}

/-- What is kept, of what is made of everything. -/
theorem filterMap_sublist_map (h : ∀ a b, f a = some b → b = g a) (l : List α) :
    (l.filterMap f).Sublist (l.map g) := by
  induction l with
  | nil => exact .slnil
  | cons a l ih =>
      rw [List.map_cons]
      cases ha : f a with
      | none =>
          rw [List.filterMap_cons_none ha]
          exact ih.cons _
      | some b =>
          rw [List.filterMap_cons_some ha, h a b ha]
          exact ih.cons_cons _

/-- Everything is kept exactly if nothing is dropped. -/
theorem filterMap_eq_map_iff (h : ∀ a b, f a = some b → b = g a) (l : List α) :
    l.filterMap f = l.map g ↔ ∀ a ∈ l, (f a).isSome = true := by
  induction l with
  | nil => simp
  | cons a l ih =>
      rw [List.map_cons, List.forall_mem_cons, ← ih]
      cases ha : f a with
      | none =>
          rw [List.filterMap_cons_none ha]
          refine iff_of_false (fun heq ↦ ?_) (by simp)
          have hlen := (filterMap_sublist_map h l).length_le
          rw [heq, List.length_cons] at hlen
          omega
      | some b =>
          rw [List.filterMap_cons_some ha, h a b ha]
          simp

end

section

variable {T : Tonic} {entries : ZendHashTable} {ps : Pairs}

/-- Only the pairs that parse count. -/
theorem insertAll_congr {ps qs : Pairs}
    (h : ps.filterMap (parsePair T) = qs.filterMap (parsePair T))
    (m : MetadataMap) :
    Multimap.insertAll (parsePair T) m ps = Multimap.insertAll (parsePair T) m qs := by
  have hfold (ps : Pairs) : Multimap.insertAll (parsePair T) m ps
      = (ps.filterMap (parsePair T)).foldl (fun m e ↦ Multimap.insert m e.1 e.2) m := by
    rw [Multimap.insertAll, List.foldl_filterMap]
    congr 1
    funext m p
    cases parsePair T p <;> rfl
  rw [hfold, hfold, h]

/-- A pair that is not UTF-8 is no metadata, however it is decoded. -/
theorem bind_parsePair
    (hascii : ∀ s bytes, T.asciiValue s = some bytes → Utf8.replacement ∉ s.toList)
    (p : String × Bytes) : (utf8Pair p).bind (parsePair T) = parsePair T (lossyPair p) := by
  cases hp : utf8Pair p with
  | some q => rw [Option.bind_some, utf8Pair_eq_some hp]
  | none =>
      rw [Option.bind_none]
      cases hv : T.asciiValue (fromUtf8Lossy p.2) with
      | none => simp [parsePair, lossyPair, hv]
      | some bytes =>
          have hutf8 := fromUtf8_of_replacement_not_mem (hascii _ _ hv)
          rw [utf8Pair, hutf8] at hp
          cases hp

end

/-- The array of one name with one string. -/
def ZendHashTable.lone (name : String) (bytes : Bytes) : ZendHashTable :=
  [(.str name, .array [(.long I64.zero, .string bytes)])]

/-- A name with a string that is not UTF-8: one parser decodes it, the other drops it. -/
theorem parse_single {name : String} {bytes : Bytes} (hname : LegalName name)
    (hbytes : fromUtf8 bytes = none) :
    parseSendMetadata (ZendHashTable.lone name bytes) = .ok [(name, fromUtf8Lossy bytes)]
      ∧ parseMetadata (ZendHashTable.lone name bytes) = [] := by
  constructor
  · rw [parseSendMetadata_eq_ok_iff]
    refine ⟨?_, rfl⟩
    intro e he
    obtain rfl := List.mem_singleton.mp he
    refine ⟨⟨name, rfl, hname⟩, _, rfl, ?_⟩
    intro v hv
    obtain rfl := List.mem_singleton.mp hv
    exact ⟨bytes, rfl⟩
  · simp [ZendHashTable.lone, parseMetadata, arrayKeyToString, Zval.array?, Zval.string?,
      Zval.zendStr?, hbytes]

/-- **Where the two parsers agree.**  On every array that the strict parser accepts, the
lenient one gives some of its pairs, in order, and all of them exactly if all strings are
UTF-8.  The requests are the same for all these arrays, with their pairs as the user's
metadata or as the plugin's, exactly if no metadata value contains U+FFFD. -/
theorem parsers_agree {T : Tonic} {name key : String} (hname : LegalName name)
    (hkey : T.asciiKey name = some key) :
    (∀ entries ps, parseSendMetadata entries = .ok ps → (parseMetadata entries).Sublist ps
        ∧ (parseMetadata entries = ps ↔ ∀ p ∈ rawPairs entries, (fromUtf8 p.2).isSome = true))
      ∧ ((∀ entries ps, parseSendMetadata entries = .ok ps → ∀ qs,
          requestMetadata T (parseMetadata entries) qs = requestMetadata T ps qs
            ∧ requestMetadata T qs (parseMetadata entries) = requestMetadata T qs ps)
        ↔ ∀ s bytes, T.asciiValue s = some bytes → Utf8.replacement ∉ s.toList) := by
  refine ⟨fun entries ps h ↦ ?_, fun hsame s bytes hs hmem ↦ ?_, fun hascii entries ps h qs ↦ ?_⟩
  · obtain ⟨hnamed, rfl⟩ := parseSendMetadata_eq_ok_iff.mp h
    rw [flattened_eq, parseMetadata_eq hnamed]
    refine ⟨filterMap_sublist_map (fun _ _ ↦ utf8Pair_eq_some) _, ?_⟩
    rw [filterMap_eq_map_iff fun _ _ ↦ utf8Pair_eq_some]
    simp [utf8Pair]
  · -- the value in bytes that are no text is sent by one of them only
    obtain ⟨bs, hbs, rfl⟩ := exists_fromUtf8_eq_none hmem
    obtain ⟨hstrict, hlenient⟩ := parse_single hname hbs
    have heq := (hsame _ _ hstrict []).1
    rw [hlenient] at heq
    simp [requestMetadata, Multimap.insertAll, Multimap.insert, parsePair, hkey, hs] at heq
  · obtain ⟨hnamed, rfl⟩ := parseSendMetadata_eq_ok_iff.mp h
    rw [flattened_eq, parseMetadata_eq hnamed]
    have hparsed : ((rawPairs entries).filterMap utf8Pair).filterMap (parsePair T)
        = ((rawPairs entries).map lossyPair).filterMap (parsePair T) := by
      rw [List.filterMap_filterMap, List.filterMap_map]
      exact List.filterMap_congr fun p _ ↦ bind_parsePair hascii p
    constructor
    · rw [requestMetadata, requestMetadata, insertAll_congr hparsed]
    · rw [requestMetadata, requestMetadata, insertAll_congr hparsed]

/-- The library with the values that HTTP admits: any bytes but control characters. -/
def Tonic.utf8 : Tonic :=
  { Tonic.ascii with
    asciiValue := fun value ↦
      if (toUtf8 value).all fun b ↦ 32 ≤ b && b != 127 || b == 9 then some (toUtf8 value)
      else none }

/-- Two values of one name, of which the second is not UTF-8. -/
def ZendHashTable.halfText : ZendHashTable :=
  [(.str "a", .array [(.long I64.zero, .string [118]), (.long I64.one, .string [0xFF])])]

/-- The lenient parser drops the second, so that the request has the first; with the strict one it
has U+FFFD, which HTTP admits. -/
theorem parsers_agree_halfText :
    (∃ ps, parseSendMetadata ZendHashTable.halfText = .ok ps
      ∧ parseMetadata ZendHashTable.halfText = [("a", "v")]
      ∧ (parseMetadata ZendHashTable.halfText).Sublist ps
      ∧ requestMetadata .utf8 (parseMetadata ZendHashTable.halfText) [] = [("a", [118])]
      ∧ requestMetadata .utf8 ps [] = [("a", [0xEF, 0xBF, 0xBD])])
    ∧ ¬ ∀ entries ps, parseSendMetadata entries = .ok ps → ∀ qs,
        requestMetadata .utf8 (parseMetadata entries) qs = requestMetadata .utf8 ps qs
          ∧ requestMetadata .utf8 qs (parseMetadata entries) = requestMetadata .utf8 qs ps := by
  obtain ⟨hsublist, hrequests⟩ := parsers_agree (T := .utf8)
    (headerKeyIsLegal_iff.mp (show headerKeyIsLegal "a" = true by decide)) rfl
  obtain ⟨ps, hps⟩ : ∃ ps, parseSendMetadata ZendHashTable.halfText = .ok ps := ⟨_, rfl⟩
  refine ⟨⟨ps, hps, by decide, (hsublist _ _ hps).1, by decide, ?_⟩, fun hsame ↦ ?_⟩
  · obtain rfl := (Except.ok.inj hps).symm
    decide
  · exact hrequests.mp hsame "\uFFFD" [0xEF, 0xBF, 0xBD] (by decide) (by decide)

end GrpcPhp
