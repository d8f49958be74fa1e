import GrpcPhp.Call.Metadata
import GrpcPhp.Lib.Fallible

/-!
# Parsing a batch

`startBatch` takes a PHP array whose keys are operation codes.  `parseOps` turns it
into a `BatchOps`, the record every later decision is taken on, or throws.

A `BatchOps` is not an arbitrary record: its two summary flags say which kinds of
operation occurred, and it carries metadata only with the metadata operation.
`BatchOps.Consistent` states this.  `ParsedAs` also relates the record to the array:
an array can name one operation twice (`1` and `"01"` are different keys of a PHP
array with the same code), and then the last one wins.
-/

namespace GrpcPhp

open Lib Php

/-! ## Operation codes -/

def OP_SEND_INITIAL_METADATA : Int := 0
def OP_SEND_MESSAGE : Int := 1
def OP_SEND_CLOSE_FROM_CLIENT : Int := 2
def OP_RECV_INITIAL_METADATA : Int := 4
def OP_RECV_MESSAGE : Int := 5
def OP_RECV_STATUS_ON_CLIENT : Int := 6

/-- `BatchOps`: the operations of one batch. -/
structure BatchOps where
  sendMetadata : Pairs := []
  hasSendInitialMetadata : Bool := false
  sendMessage : Option Bytes := none
  sendClose : Bool := false
  recvInitialMetadata : Bool := false
  recvMessage : Bool := false
  recvStatus : Bool := false
  hasSendOps : Bool := false
  hasRecvOps : Bool := false
deriving DecidableEq, Repr

/-- `array_key_to_long`. -/
def arrayKeyToLong : ArrayKey → Except GrpcError I64
  | .long n => .ok n
  | .string s | .str s => match parseI64 s with
    | some n => .ok n
    | none => .error (.invalidArg ("invalid op key: " ++ s))
  | .zendString bytes => match (fromUtf8 bytes).bind parseI64 with
    | some n => .ok n
    | none => .error (.invalidArg "invalid op key")

/-- The value of `OP_SEND_MESSAGE`: `['message' => string, 'flags' => int]`, the flags
optional and checked first. -/
def parseMessageOp (val : Zval) : Except PhpException Bytes :=
  match val.array? with
  | none => .error (invalidArgument "Expected an array for send message")
  | some ht =>
    if (ht.get? "flags").any fun f ↦ f.long?.isNone then
      .error (invalidArgument "Expected an int for message flags")
    else match (ht.get? "message").bind Zval.zendStr? with
      | none => .error (invalidArgument "Expected a string for send message")
      | some bytes => .ok bytes

/-- The value of `OP_SEND_INITIAL_METADATA`. -/
def parseMetadataOp (val : Zval) : Except PhpException Pairs :=
  match val.array? with
  | none => .error badMetadata
  | some ht => parseSendMetadata ht

/-- The operation a key names. -/
inductive Op where
  | sendInitialMetadata
  | sendMessage
  | sendCloseFromClient
  | recvInitialMetadata
  | recvMessage
  | recvStatusOnClient
deriving DecidableEq, Repr

/-- The `match op_code` of `parse_ops`. -/
def Op.ofCode (code : Int) : Option Op :=
  if code = OP_SEND_INITIAL_METADATA then some .sendInitialMetadata
  else if code = OP_SEND_MESSAGE then some .sendMessage
  else if code = OP_SEND_CLOSE_FROM_CLIENT then some .sendCloseFromClient
  else if code = OP_RECV_INITIAL_METADATA then some .recvInitialMetadata
  else if code = OP_RECV_MESSAGE then some .recvMessage
  else if code = OP_RECV_STATUS_ON_CLIENT then some .recvStatusOnClient
  else none

/-- The code of an operation, as a 64-bit integer. -/
def Op.code : Op → I64
  | .sendInitialMetadata => I64.ofInt OP_SEND_INITIAL_METADATA
  | .sendMessage => I64.ofInt OP_SEND_MESSAGE
  | .sendCloseFromClient => I64.ofInt OP_SEND_CLOSE_FROM_CLIENT
  | .recvInitialMetadata => I64.ofInt OP_RECV_INITIAL_METADATA
  | .recvMessage => I64.ofInt OP_RECV_MESSAGE
  | .recvStatusOnClient => I64.ofInt OP_RECV_STATUS_ON_CLIENT

/-- The operation of an array key, or the exception it is rejected with. -/
def parseKey (key : ArrayKey) : Except PhpException Op :=
  match arrayKeyToLong key with
  | .error e => .error e.toPhp
  | .ok n => match Op.ofCode n.val with
    | some op => .ok op
    | none => .error (invalidArgument "Unrecognized key in batch")

/-- One iteration of the loop of `parse_ops`. -/
def parseOp (batch : BatchOps) (e : ArrayKey × Zval) : Except PhpException BatchOps := do
  match ← parseKey e.1 with
  | .sendInitialMetadata =>
    let md ← parseMetadataOp e.2
    pure { batch with hasSendOps := true, hasSendInitialMetadata := true, sendMetadata := md }
  | .sendMessage =>
    let m ← parseMessageOp e.2
    pure { batch with hasSendOps := true, sendMessage := some m }
  | .sendCloseFromClient => pure { batch with hasSendOps := true, sendClose := true }
  | .recvInitialMetadata => pure { batch with hasRecvOps := true, recvInitialMetadata := true }
  | .recvMessage => pure { batch with hasRecvOps := true, recvMessage := true }
  | .recvStatusOnClient => pure { batch with hasRecvOps := true, recvStatus := true }

/-- `parse_ops`. -/
def parseOps (ops : ZendHashTable) : Except PhpException BatchOps := ops.foldlM parseOp {}

/-! ## Writing a batch down -/

/-- The entry `op => true`. -/
def Op.flag (op : Op) : ArrayKey × Zval := (.long op.code, .bool true)

/-- The entry `OP_SEND_MESSAGE => ['message' => m]`. -/
def messageOp (m : Bytes) : ArrayKey × Zval :=
  (.long Op.sendMessage.code, .array [(.str "message", .string m)])

/-- The entry `OP_SEND_INITIAL_METADATA => [key => [value], …]`. -/
def metadataOp (md : List (String × Bytes)) : ArrayKey × Zval :=
  (.long Op.sendInitialMetadata.code,
    .array (md.map fun p ↦ (.str p.1, .array [(.long (I64.ofInt 0), .string p.2)])))

/-! ## What a parsed batch looks like -/

/-- The invariant of parsed batches: the summary flags are the disjunctions they
stand for, and without the metadata operation there is no metadata. -/
structure BatchOps.Consistent (b : BatchOps) : Prop where
  send : b.hasSendOps = (b.hasSendInitialMetadata || b.sendMessage.isSome || b.sendClose)
  recv : b.hasRecvOps = (b.recvInitialMetadata || b.recvMessage || b.recvStatus)
  metadata : b.hasSendInitialMetadata = false → b.sendMetadata = []

/-- The payloads of the `OP_SEND_MESSAGE` entries of an array, in order. -/
def messageOps (ops : ZendHashTable) : List Bytes :=
  ops.filterMap fun e ↦ match parseKey e.1, parseMessageOp e.2 with
    | .ok .sendMessage, .ok m => some m
    | _, _ => none

/-- The metadata lists of the `OP_SEND_INITIAL_METADATA` entries of an array, in
order. -/
def metadataOps (ops : ZendHashTable) : List Pairs :=
  ops.filterMap fun e ↦ match parseKey e.1, parseMetadataOp e.2 with
    | .ok .sendInitialMetadata, .ok md => some md
    | _, _ => none

/-- What is known of the batch after part of the array has been read. -/
structure ParsedAs (ops : ZendHashTable) (b : BatchOps) : Prop where
  consistent : b.Consistent
  message : b.sendMessage = (messageOps ops).getLast?
  metadata : b.sendMetadata = (metadataOps ops).getLast?.getD []
  hasMetadata : b.hasSendInitialMetadata = !(metadataOps ops).isEmpty

/-- What an accepted entry does to the batch, by its operation. -/
inductive Recorded (b : BatchOps) (val : Zval) : Op → BatchOps → Prop
  | metadata {md : Pairs} (h : parseMetadataOp val = .ok md) :
      Recorded b val .sendInitialMetadata
        { b with hasSendOps := true, hasSendInitialMetadata := true, sendMetadata := md }
  | message {m : Bytes} (h : parseMessageOp val = .ok m) :
      Recorded b val .sendMessage { b with hasSendOps := true, sendMessage := some m }
  | close : Recorded b val .sendCloseFromClient { b with hasSendOps := true, sendClose := true }
  | headers :
      Recorded b val .recvInitialMetadata { b with hasRecvOps := true, recvInitialMetadata := true }
  | read : Recorded b val .recvMessage { b with hasRecvOps := true, recvMessage := true }
  | status : Recorded b val .recvStatusOnClient { b with hasRecvOps := true, recvStatus := true }

/-- **Inversion of one iteration.** -/
theorem parseOp_recorded {b b' : BatchOps} {e : ArrayKey × Zval} (h : parseOp b e = .ok b') :
    ∃ op, parseKey e.1 = .ok op ∧ Recorded b e.2 op b' := by
  obtain ⟨op, hk, h⟩ := bind_eq_ok_iff.mp h
  refine ⟨op, hk, ?_⟩
  cases op with
  | sendInitialMetadata =>
      obtain ⟨md, hv, h⟩ := bind_eq_ok_iff.mp h
      cases h
      exact .metadata hv
  | sendMessage =>
      obtain ⟨m, hv, h⟩ := bind_eq_ok_iff.mp h
      cases h
      exact .message hv
  | sendCloseFromClient =>
      cases h
      exact .close
  | recvInitialMetadata =>
      cases h
      exact .headers
  | recvMessage =>
      cases h
      exact .read
  | recvStatusOnClient =>
      cases h
      exact .status

/-- One more entry keeps the batch in step with the array. -/
theorem parseOp_parsedAs {ops : ZendHashTable} {e : ArrayKey × Zval} {b b' : BatchOps}
    (h : ParsedAs ops b) (hp : parseOp b e = .ok b') : ParsedAs (ops ++ [e]) b' := by
  obtain ⟨⟨hs, hr, hmd⟩, hm, hmeta, hhas⟩ := h
  obtain ⟨op, hk, hrec⟩ := parseOp_recorded hp
  cases hrec with
  | metadata hv =>
      constructor
      · exact ⟨by simp, hr, by simp⟩
      · simp [messageOps, hk, hm]
      · simp [metadataOps, hk, hv]
      · simp [metadataOps, hk, hv]
  | message hv =>
      constructor
      · exact ⟨by simp, hr, hmd⟩
      · simp [messageOps, hk, hv]
      · simp [metadataOps, hk, hmeta]
      · simp [metadataOps, hk, hhas]
  | close =>
      exact ⟨⟨by simp, hr, hmd⟩, by simp [messageOps, hk, hm],
        by simp [metadataOps, hk, hmeta], by simp [metadataOps, hk, hhas]⟩
  | headers | read | status =>
      exact ⟨⟨hs, by simp, hmd⟩, by simp [messageOps, hk, hm],
        by simp [metadataOps, hk, hmeta], by simp [metadataOps, hk, hhas]⟩

/-- A whole array that parses is described by the batch it parses to. -/
theorem parseOps_parsedAs {ops : ZendHashTable} {b : BatchOps} (h : parseOps ops = .ok b) :
    ParsedAs ops b := by
  induction ops using List.reverseRecOn generalizing b with
  | nil =>
      cases h
      exact ⟨⟨rfl, rfl, fun _ ↦ rfl⟩, rfl, rfl, rfl⟩
  | append_singleton ops e ih =>
      obtain ⟨b₀, h₀, hp⟩ := foldlM_concat_eq_ok_iff.mp h
      exact parseOp_parsedAs (ih h₀) hp

/-- Parsed batches are consistent. -/
theorem parseOps_consistent {ops : ZendHashTable} {b : BatchOps} (h : parseOps ops = .ok b) :
    b.Consistent := (parseOps_parsedAs h).consistent

/-- Whether a batch has an operation. -/
def BatchOps.has (b : BatchOps) : Op → Bool
  | .sendInitialMetadata => b.hasSendInitialMetadata
  | .sendMessage => b.sendMessage.isSome
  | .sendCloseFromClient => b.sendClose
  | .recvInitialMetadata => b.recvInitialMetadata
  | .recvMessage => b.recvMessage
  | .recvStatusOnClient => b.recvStatus

/-- An entry of the array names the operation. -/
def Names (ops : ZendHashTable) (op : Op) : Prop := ∃ e ∈ ops, parseKey e.1 = .ok op

/-- An entry adds the operation it names, and no other. -/
theorem parseOp_has {b b' : BatchOps} {e : ArrayKey × Zval} (h : parseOp b e = .ok b') :
    ∃ op, parseKey e.1 = .ok op ∧ ∀ op', b'.has op' = (b.has op' || op' = op) := by
  obtain ⟨op, hk, hrec⟩ := parseOp_recorded h
  refine ⟨op, hk, fun op' ↦ ?_⟩
  cases hrec <;> cases op' <;> simp [BatchOps.has]

/-- **A parsed batch has the operations its array names.** -/
theorem parseOps_has {ops : ZendHashTable} {b : BatchOps} (h : parseOps ops = .ok b) (op : Op) :
    b.has op = true ↔ Names ops op := by
  induction ops using List.reverseRecOn generalizing b with
  | nil =>
      cases h
      cases op <;> simp [BatchOps.has, Names]
  | append_singleton ops e ih =>
      obtain ⟨b₀, h₀, hp⟩ := foldlM_concat_eq_ok_iff.mp h
      obtain ⟨op', hk, hhas⟩ := parseOp_has hp
      have ih₀ := ih h₀
      simp only [Names] at ih₀ ⊢
      simp [hhas, ih₀, hk, or_and_right, exists_or, @eq_comm _ op op']

/-- An array with an entry has an operation, if it parses. -/
theorem parseOps_hasOps {ops : ZendHashTable} {b : BatchOps} (h : parseOps ops = .ok b)
    (hne : ops ≠ []) : (b.hasSendOps || b.hasRecvOps) = true := by
  obtain ⟨rest, e, rfl⟩ := (List.eq_nil_or_concat' ops).resolve_left hne
  obtain ⟨b₀, -, he⟩ := foldlM_concat_eq_ok_iff.mp h
  obtain ⟨op, hk, -⟩ := parseOp_recorded he
  have hop := (parseOps_has h op).mpr ⟨e, by simp, hk⟩
  have hb := parseOps_consistent h
  rw [hb.send, hb.recv]
  cases op <;> simp only [BatchOps.has] at hop <;> simp [hop]

/-! ## The batches of PHP clients -/

namespace BatchOps

/-- The send half of a unary or server-streaming call. -/
def start (md : Pairs) (m : Bytes) : BatchOps where
  sendMetadata := md
  hasSendInitialMetadata := true
  sendMessage := some m
  sendClose := true
  hasSendOps := true

/-- The metadata of a client or bidi stream. -/
def startStream (md : Pairs) : BatchOps where
  sendMetadata := md
  hasSendInitialMetadata := true
  hasSendOps := true

/-- A message. -/
def write (m : Bytes) : BatchOps where
  sendMessage := some m
  hasSendOps := true

/-- The close. -/
def writesDone : BatchOps where
  sendClose := true
  hasSendOps := true

/-- A batch of receive operations. -/
def receive (headers message status : Bool) : BatchOps where
  recvInitialMetadata := headers
  recvMessage := message
  recvStatus := status
  hasRecvOps := true

/-- A whole unary call. -/
def unary (md : Pairs) (m : Bytes) (headers : Bool) : BatchOps :=
  { start md m with
    recvInitialMetadata := headers
    recvMessage := true
    recvStatus := true
    hasRecvOps := true }

/-- The last batch of a client stream: the close, and the receive operations. -/
def closeAndRead (headers : Bool) : BatchOps :=
  { receive headers true true with
    sendClose := true
    hasSendOps := true }

end BatchOps

end GrpcPhp
