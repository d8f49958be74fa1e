import GrpcPhp.Php.Error
import GrpcPhp.Tonic

/-!
# Metadata at the PHP boundary

The conversions of `call.rs` between PHP arrays, raw pairs and tonic's metadata
maps: the lenient parser for what a credentials plugin returns, the strict one for
`OP_SEND_INITIAL_METADATA`, the insertion of raw pairs into a request, and the
grouping of a received map into the array PHP gets.
-/

namespace GrpcPhp

open Lib Php

/-- Raw metadata, as `(key, value)` pairs in order. -/
abbrev Pairs := List (String × String)

/-- A received metadata map grouped per key, in order of first appearance. -/
abbrev MetadataEntries := List (String × List Bytes)

/-! ## From PHP -/

/-- `header_key_is_legal`: non-empty, lowercase alphanumerics plus `-` `_` `.`. -/
def headerKeyIsLegal (key : String) : Bool :=
  !key.toList.isEmpty && key.toList.all fun c ↦
    ('a' ≤ c && c ≤ 'z') || ('0' ≤ c && c ≤ '9') || c == '-' || c == '_' || c == '.'

/-- The error of every malformed piece of `OP_SEND_INITIAL_METADATA`. -/
def badMetadata : PhpException := invalidArgument "Bad metadata value given"

/-- The values of one key of `parse_send_metadata`. -/
def parseSendValues (k : String) : ZendHashTable → Except PhpException Pairs
  | [] => .ok []
  | (_, v) :: rest => match v.zendStr? with
    | none => .error badMetadata
    | some s => (parseSendValues k rest).map ((k, fromUtf8Lossy s) :: ·)

/-- `parse_send_metadata`: strictly `array<string, list<string>>` with legal keys. -/
def parseSendMetadata : ZendHashTable → Except PhpException Pairs
  | [] => .ok []
  | (key, val) :: rest => match arrayKeyToString key with
    | none => .error badMetadata
    | some k =>
      if !headerKeyIsLegal k then .error badMetadata
      else match val.array? with
        | none => .error badMetadata
        | some values => do
          let ps ← parseSendValues k values
          let qs ← parseSendMetadata rest
          pure (ps ++ qs)

/-- `parse_metadata`: what a plugin returned, skipping whatever does not fit. -/
def parseMetadata (ht : ZendHashTable) : Pairs :=
  ht.flatMap fun e ↦ match arrayKeyToString e.1 with
    | none => []
    | some k => match e.2.array? with
      | some arr => arr.filterMap fun v ↦ v.2.string?.map fun s ↦ (k, s)
      | none => e.2.string?.toList.map fun s ↦ (k, s)

/-! ## To the wire -/

variable (T : Tonic)

/-- A raw pair as request metadata: both its key and its value have to parse. -/
def parsePair (p : String × String) : Option (String × Bytes) :=
  (T.asciiKey p.1).bind fun name ↦ (T.asciiValue p.2).map fun val ↦ (name, val)

/-- The metadata loops of the three request builders: the user's pairs, then the
plugin's, each inserted if it parses. -/
def requestMetadata (sendMetadata pluginMetadata : Pairs) : MetadataMap :=
  Multimap.insertAll (parsePair T) (Multimap.insertAll (parsePair T) [] sendMetadata)
    pluginMetadata

/-- Passing the plugin's pairs separately is appending them to the user's. -/
theorem requestMetadata_eq (ps qs : Pairs) :
    requestMetadata T ps qs = Multimap.insertAll (parsePair T) [] (ps ++ qs) :=
  (Multimap.insertAll_append _ _ _ _).symm

/-- The last value of a pair list for a header name, among the pairs that parse. -/
def lastValue (ps : Pairs) (name : String) : Option Bytes :=
  Multimap.lastValid (parsePair T) ps name

/-- A request holds, under each name, the last valid value of the plugin's pairs, or
else of the user's. -/
theorem values_requestMetadata (ps qs : Pairs) (name : String) :
    (requestMetadata T ps qs).values name
      = ((lastValue T qs name).or (lastValue T ps name)).toList := by
  rw [requestMetadata_eq, Multimap.values_insertAll, Multimap.lastValid_append]
  simp only [lastValue]
  cases (Multimap.lastValid (parsePair T) qs name).or
    (Multimap.lastValid (parsePair T) ps name) <;> rfl

/-! ## To PHP -/

/-- The bytes PHP gets for one entry; an entry that does not decode is skipped. -/
def decodeEntry (e : String × Bytes) : Option Bytes :=
  if T.binaryKey e.1 then T.toBytes e.2 else T.toStr e.2

/-- Append a value to the slot of its key, or open a slot at the end. -/
def pushValue : MetadataEntries → String → Bytes → MetadataEntries
  | [], k, v => [(k, [v])]
  | (k', vs) :: rest, k, v =>
      if k' = k then (k', vs ++ [v]) :: rest else (k', vs) :: pushValue rest k v

/-- `collect_metadata`. -/
def collectMetadata (map : MetadataMap) : MetadataEntries :=
  map.foldl (fun entries e ↦ match decodeEntry T e with
    | some bytes => pushValue entries e.1 bytes
    | none => entries) []

/-- `is_reserved_header`. -/
def isReservedHeader (key : String) : Bool :=
  key == "content-type" || key == "grpc-status" || key == "grpc-message"
    || key == "grpc-encoding" || key == "grpc-accept-encoding"

/-- `metadata_to_php`. -/
def metadataToPhp (map : MetadataMap) : MetadataEntries :=
  (collectMetadata T map).filter fun e ↦ !isReservedHeader e.1

/-- `status_metadata_for_php`: the rich status goes back into the metadata. -/
def statusMetadataForPhp (status : Status) : MetadataMap :=
  if status.details.isEmpty then status.metadata
  else status.metadata.insert "grpc-status-details-bin" (T.fromBytes status.details)

end GrpcPhp
