import GrpcPhp.Call.Metadata
import GrpcPhp.Lib.Grouping

/-!
# Metadata PHP receives

`collect_metadata` decodes the entries of a metadata map, drops the ones that do not decode,
and groups the rest by key.  So it is the grouping of the decoded map
(`collectMetadata_eq`), and what PHP gets follows from what a grouping is.

On the way to PHP the rich status of an error is put back under the key tonic took it from.
That is a replacing insertion, so it is seen in the group of this key and in no other.
-/

namespace GrpcPhp

open Lib

variable (T : Tonic)

/-- The entries of a map that decode, with their decoded values. -/
def decoded (map : MetadataMap) : Multimap String Bytes :=
  map.filterMap fun e ↦ (decodeEntry T e).map fun bytes ↦ (e.1, bytes)

/-- The decoded values of a key, in iteration order. -/
def decodedValues (map : MetadataMap) (key : String) : List Bytes :=
  map.filterMap fun e ↦ if e.1 = key then decodeEntry T e else none

/-- The keys of the entries that decode, in iteration order and with repetitions. -/
def decodableKeys (map : MetadataMap) : List String :=
  (map.filter fun e ↦ (decodeEntry T e).isSome).map Prod.fst

/-- Filling a slot of `collect_metadata` is filling a slot of a grouping. -/
theorem pushValue_eq (entries : MetadataEntries) (k : String) (v : Bytes) :
    pushValue entries k v = Multimap.push entries k v := by
  induction entries with
  | nil => rfl
  | cons e rest ih => rw [pushValue, Multimap.push, ih]

/-- `collect_metadata` groups what decodes. -/
theorem collectMetadata_eq (map : MetadataMap) :
    collectMetadata T map = Multimap.group (decoded T map) := by
  rw [collectMetadata, Multimap.group, decoded, List.foldl_filterMap]
  congr 1
  funext entries e
  cases decodeEntry T e with
  | none => rfl
  | some bytes => exact pushValue_eq entries e.1 bytes

/-- The values of a key in the decoded map. -/
theorem values_decoded (map : MetadataMap) (key : String) :
    (decoded T map).values key = decodedValues T map key := by
  rw [decoded, Multimap.values, List.filterMap_filterMap, decodedValues]
  congr 1
  funext e
  cases decodeEntry T e <;> simp

/-- The keys of the decoded map. -/
theorem map_fst_decoded (map : MetadataMap) :
    (decoded T map).map Prod.fst = decodableKeys T map := by
  induction map with
  | nil => rfl
  | cons e map ih =>
      simp only [decoded, decodableKeys, List.filterMap_cons, List.filter_cons] at ih ⊢
      cases decodeEntry T e with
      | none => exact ih
      | some bytes => simp [ih]

/-! ## What PHP gets -/

variable {T}

/-- The keys of a collected map, each at its first decodable entry. -/
theorem map_fst_collectMetadata (map : MetadataMap) :
    (collectMetadata T map).map Prod.fst = Multimap.firstSeen (decodableKeys T map) := by
  rw [collectMetadata_eq, Multimap.map_fst_group, map_fst_decoded]

/-- The slots of a collected map. -/
theorem mem_collectMetadata_iff {map : MetadataMap} {key : String} {vs : List Bytes} :
    (key, vs) ∈ collectMetadata T map ↔ vs = decodedValues T map key ∧ vs ≠ [] := by
  rw [collectMetadata_eq, Multimap.mem_group_iff, values_decoded]

/-- The keys that have a decodable entry. -/
theorem mem_decodableKeys_iff {map : MetadataMap} {key : String} :
    key ∈ decodableKeys T map ↔ ∃ e ∈ map, e.1 = key ∧ (decodeEntry T e).isSome = true := by
  rw [decodableKeys, List.mem_map]
  constructor
  · rintro ⟨e, he, rfl⟩
    exact ⟨e, (List.mem_filter.mp he).1, rfl, (List.mem_filter.mp he).2⟩
  · rintro ⟨e, he, rfl, hd⟩
    exact ⟨e, List.mem_filter.mpr ⟨he, hd⟩, rfl⟩

variable (T)

/-- The loop of `metadata_to_php` with the hash table it fills: an insertion for every group
that is not a reserved header. -/
def metadataTable (map : MetadataMap) : MetadataEntries :=
  Multimap.insertAll (fun e ↦ if isReservedHeader e.1 then none else some e) []
    (collectMetadata T map)

/-- No insertion of `metadata_to_php` replaces an earlier one. -/
theorem metadataTable_eq (map : MetadataMap) : metadataTable T map = metadataToPhp T map := by
  have hfilter : (collectMetadata T map).filterMap
      (fun e ↦ if isReservedHeader e.1 then none else some e) = metadataToPhp T map := by
    rw [metadataToPhp, ← List.filterMap_eq_filter]
    congr 1
    funext e
    cases h : isReservedHeader e.1 <;> simp [Option.guard, h]
  have hnodup : ((metadataToPhp T map).map Prod.fst).Nodup := by
    refine List.Nodup.sublist (List.filter_sublist.map Prod.fst) ?_
    rw [map_fst_collectMetadata]
    exact Multimap.nodup_firstSeen _
  rw [metadataTable, Multimap.insertAll_of_nodup _ (hfilter ▸ hnodup), hfilter]

/-- **Received metadata is grouped without loss.**  The keys are distinct and ordered by their
first decodable entry; a key has exactly the decoded values of its decodable entries, in
order; it is there exactly if it has one; and PHP gets all of it but the reserved headers. -/
theorem collectMetadata_groups (map : MetadataMap) :
    ((collectMetadata T map).map Prod.fst).Nodup
      ∧ ((collectMetadata T map).map Prod.fst).Pairwise (fun k k' ↦
        (decodableKeys T map).idxOf k < (decodableKeys T map).idxOf k')
      ∧ (∀ k vs, (k, vs) ∈ collectMetadata T map → vs = decodedValues T map k)
      ∧ (∀ k, k ∈ (collectMetadata T map).map Prod.fst
        ↔ ∃ e ∈ map, e.1 = k ∧ (decodeEntry T e).isSome = true)
      ∧ metadataTable T map = metadataToPhp T map
      ∧ ∀ e, e ∈ metadataToPhp T map ↔ e ∈ collectMetadata T map ∧ e.1 ∉ ["content-type",
        "grpc-status", "grpc-message", "grpc-encoding", "grpc-accept-encoding"] := by
  rw [map_fst_collectMetadata]
  refine ⟨Multimap.nodup_firstSeen _, Multimap.firstSeen_pairwise _, ?_, ?_,
    metadataTable_eq T map, ?_⟩
  · intro k vs h
    exact (mem_collectMetadata_iff.mp h).1
  · intro k
    rw [Multimap.mem_firstSeen, mem_decodableKeys_iff]
  · intro e
    rw [metadataToPhp, List.mem_filter]
    simp [isReservedHeader, and_assoc]

/-- Interleaved keys, one of them binary, with an entry that does not decode and a reserved
header. -/
theorem collectMetadata_groups_interleaved :
    let map : MetadataMap := [("a", [1]), ("b-bin", [66, 7]), ("a", [118]), ("grpc-status", [48]),
      ("b-bin", [66]), ("a", [119])]
    ((collectMetadata Tonic.binary map).map Prod.fst).Nodup
      ∧ collectMetadata Tonic.binary map
        = [("b-bin", [[7], []]), ("a", [[118], [119]]), ("grpc-status", [[48]])]
      ∧ ("a", [[118], [119]]) ∈ metadataToPhp Tonic.binary map
      ∧ ("grpc-status", [[48]]) ∉ metadataToPhp Tonic.binary map := by
  intro map
  obtain ⟨hnodup, -, -, -, -, hphp⟩ := collectMetadata_groups Tonic.binary map
  refine ⟨hnodup, by decide, (hphp _).mpr ⟨by decide, by decide⟩, ?_⟩
  intro h
  exact ((hphp _).mp h).2 (by decide)

/-! ## The rich status -/

/-- The decoded values of a key, from its wire values. -/
theorem decodedValues_eq (map : MetadataMap) (key : String) :
    decodedValues T map key = (map.values key).filterMap fun v ↦ decodeEntry T (key, v) := by
  rw [Multimap.values, List.filterMap_filterMap, decodedValues]
  congr 1
  funext e
  by_cases h : e.1 = key
  · subst h
    simp
  · simp [h]

/-- **The rich status survives.**  If a payload is decoded from its own wire form and the key
is a binary one, the details are the one value of their key, and every other key has the
values it had. -/
theorem collectMetadata_statusMetadataForPhp
    (hbinary : T.binaryKey "grpc-status-details-bin" = true)
    (hround : ∀ bytes, T.toBytes (T.fromBytes bytes) = some bytes) (status : Status) :
    (status.details ≠ [] → ∀ vs, ("grpc-status-details-bin", vs)
        ∈ collectMetadata T (statusMetadataForPhp T status) ↔ vs = [status.details])
      ∧ (status.details = [] → collectMetadata T (statusMetadataForPhp T status)
        = collectMetadata T status.metadata)
      ∧ ∀ k ≠ "grpc-status-details-bin", ∀ vs,
        (k, vs) ∈ collectMetadata T (statusMetadataForPhp T status)
          ↔ (k, vs) ∈ collectMetadata T status.metadata := by
  refine ⟨?_, ?_, ?_⟩
  · intro hne vs
    have hvalues : decodedValues T (statusMetadataForPhp T status) "grpc-status-details-bin"
        = [status.details] := by
      rw [decodedValues_eq, statusMetadataForPhp, if_neg (by simpa using hne),
        Multimap.values_insert_self]
      simp [decodeEntry, hbinary, hround]
    rw [mem_collectMetadata_iff, hvalues]
    constructor
    · exact And.left
    · rintro rfl
      exact ⟨rfl, List.cons_ne_nil _ _⟩
  · intro hnil
    rw [statusMetadataForPhp, if_pos (by simp [hnil])]
  · intro k hk vs
    have hvalues : decodedValues T (statusMetadataForPhp T status) k
        = decodedValues T status.metadata k := by
      rw [decodedValues_eq, decodedValues_eq, statusMetadataForPhp]
      split
      · rfl
      · rw [Multimap.values_insert_of_ne _ hk]
    rw [mem_collectMetadata_iff, mem_collectMetadata_iff, hvalues]

/-- A status with details, over a map that already has two stale entries under their key. -/
theorem details_replace_stale_entries :
    ∃ status : Status, status.details = [8, 5]
      ∧ status.metadata = [("grpc-status-details-bin", [66, 1]), ("a", [118]),
        ("grpc-status-details-bin", [66, 2])]
      ∧ ("grpc-status-details-bin", [[8, 5]])
        ∈ collectMetadata Tonic.binary (statusMetadataForPhp Tonic.binary status)
      ∧ ("a", [[118]])
        ∈ collectMetadata Tonic.binary (statusMetadataForPhp Tonic.binary status) := by
  refine ⟨⟨.unknown, "", [8, 5], _⟩, rfl, rfl, ?_, ?_⟩
  · exact ((collectMetadata_statusMetadataForPhp Tonic.binary (by decide) (fun _ ↦ rfl) _).1
      (by decide) _).mpr rfl
  · exact ((collectMetadata_statusMetadataForPhp Tonic.binary (by decide) (fun _ ↦ rfl) _).2.2 "a"
      (by decide) _).mpr (by decide)

end GrpcPhp
