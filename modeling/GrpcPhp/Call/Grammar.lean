import GrpcPhp.Call.Batch

/-!
# The grammar of a batch

What `parse_ops` accepts, written down without it: the shape of a key, of a metadata value
and of a message value, and the batch that an array describes.  The parser is an early exit
loop over untyped values; `parseOps_eq_ok_iff` says that it accepts exactly the arrays whose
entries all have the right shape, and gives exactly the batch they describe.

The description is in terms of what the array holds under each code, so it does not depend
on the order of entries with different codes.
-/

namespace GrpcPhp

open Lib Php

/-! ## Shapes -/

/-- The integer a key denotes: its own, or the one its text is the decimal form of. -/
def Php.ArrayKey.integer? : ArrayKey → Option Int
  | .long n => some n.val
  | .string s | .str s => (parseI64 s).map Sat.val
  | .zendString bytes => ((fromUtf8 bytes).bind parseI64).map Sat.val

/-- A header name: not empty, over `[a-z0-9-_.]`. -/
def LegalName (name : String) : Prop :=
  name ≠ "" ∧ ∀ c ∈ name.toList,
    ('a' ≤ c ∧ c ≤ 'z') ∨ ('0' ≤ c ∧ c ≤ '9') ∨ c = '-' ∨ c = '_' ∨ c = '.'

/-- An array of strings. -/
def StringList (values : ZendHashTable) : Prop := ∀ v ∈ values, ∃ bytes, v.2 = .string bytes

/-- A header name with an array of strings. -/
def NamedStrings (e : ArrayKey × Zval) : Prop :=
  (∃ name, arrayKeyToString e.1 = some name ∧ LegalName name)
    ∧ ∃ values, e.2 = .array values ∧ StringList values

/-- An array from header names to arrays of strings. -/
def MetadataShape (val : Zval) : Prop :=
  ∃ entries, val = .array entries ∧ ∀ e ∈ entries, NamedStrings e

/-- An array with a string under `message` and, if there is anything there, an integer under
`flags`. -/
def MessageShape (val : Zval) : Prop :=
  ∃ entries : ZendHashTable, val = .array entries
    ∧ (∃ bytes, entries.get? "message" = some (.string bytes))
    ∧ ∀ flags, entries.get? "flags" = some flags → ∃ n, flags = .long n

/-- An entry of a batch: its key denotes an operation code, and its value has the shape of
the operation. -/
def EntryShape (e : ArrayKey × Zval) : Prop :=
  ∃ code ∈ [0, 1, 2, 4, 5, 6], e.1.integer? = some code
    ∧ (code = 0 → MetadataShape e.2) ∧ (code = 1 → MessageShape e.2)

/-! ## Descriptions -/

/-- The operation codes of an array, in order. -/
def opCodes (ops : ZendHashTable) : List Int := ops.filterMap fun e ↦ e.1.integer?

/-- The values an array has under an operation code, in order. -/
def opValues (ops : ZendHashTable) (code : Int) : List Zval :=
  ops.filterMap fun e ↦ if e.1.integer? = some code then some e.2 else none

/-- The strings of an array under one name, decoded with replacement. -/
def namedStrings (name : String) (values : ZendHashTable) : Pairs :=
  values.filterMap fun v ↦ v.2.zendStr?.map fun bytes ↦ (name, fromUtf8Lossy bytes)

/-- The pairs of a metadata value, in iteration order. -/
def flattened (val : Zval) : Pairs :=
  (val.array?.getD []).flatMap fun e ↦
    namedStrings ((arrayKeyToString e.1).getD "") (e.2.array?.getD [])

/-- The payload of a message value. -/
def messagePayload (val : Zval) : Option Bytes :=
  (val.array?.bind fun entries ↦ entries.get? "message").bind Zval.zendStr?

/-- The batch an array describes: under each code the last value counts, and an operation
occurs if its code does. -/
def BatchOps.described (ops : ZendHashTable) : BatchOps where
  sendMetadata := (opValues ops 0).getLast?.elim [] flattened
  hasSendInitialMetadata := (opCodes ops).contains 0
  sendMessage := (opValues ops 1).getLast?.bind messagePayload
  sendClose := (opCodes ops).contains 2
  recvInitialMetadata := (opCodes ops).contains 4
  recvMessage := (opCodes ops).contains 5
  recvStatus := (opCodes ops).contains 6
  hasSendOps := (opCodes ops).any [0, 1, 2].contains
  hasRecvOps := (opCodes ops).any [4, 5, 6].contains

/-! ## The parsers of single values -/

/-- `header_key_is_legal` decides the names. -/
theorem headerKeyIsLegal_iff {name : String} : headerKeyIsLegal name = true ↔ LegalName name := by
  simp [headerKeyIsLegal, LegalName, or_assoc]

/-- The strings of one name are accepted exactly if they are strings. -/
theorem parseSendValues_eq_ok_iff {name : String} {values : ZendHashTable} {ps : Pairs} :
    parseSendValues name values = .ok ps
      ↔ StringList values ∧ ps = namedStrings name values := by
  induction values generalizing ps with
  | nil => simp [parseSendValues, StringList, namedStrings, eq_comm]
  | cons v rest ih =>
      simp only [parseSendValues, StringList, List.forall_mem_cons]
      cases hv : v.2.zendStr? with
      | none =>
          refine iff_of_false (by simp) ?_
          rintro ⟨⟨⟨bytes, h⟩, -⟩, -⟩
          rw [Zval.zendStr?_eq_some_iff.mpr h] at hv
          cases hv
      | some bytes =>
          have hnamed : namedStrings name (v :: rest)
              = (name, fromUtf8Lossy bytes) :: namedStrings name rest := by
            simp [namedStrings, hv]
          rw [hnamed, map_eq_ok_iff]
          constructor
          · rintro ⟨ps', h, rfl⟩
            obtain ⟨hrest, rfl⟩ := ih.mp h
            exact ⟨⟨⟨bytes, Zval.zendStr?_eq_some_iff.mp hv⟩, hrest⟩, rfl⟩
          · rintro ⟨⟨-, hrest⟩, rfl⟩
            exact ⟨_, ih.mpr ⟨hrest, rfl⟩, rfl⟩

/-- The entries of a metadata value are accepted exactly if they are named strings. -/
theorem parseSendMetadata_eq_ok_iff {entries : ZendHashTable} {ps : Pairs} :
    parseSendMetadata entries = .ok ps
      ↔ (∀ e ∈ entries, NamedStrings e) ∧ ps = flattened (.array entries) := by
  induction entries generalizing ps with
  | nil => simp [parseSendMetadata, flattened, Zval.array?, eq_comm]
  | cons e rest ih =>
      obtain ⟨key, val⟩ := e
      simp only [parseSendMetadata, List.forall_mem_cons]
      cases hk : arrayKeyToString key with
      | none => simp [NamedStrings, hk]
      | some name =>
          by_cases hlegal : headerKeyIsLegal name = true
          · cases hv : val.array? with
            | none =>
                have hno : ∀ values, val ≠ .array values := by
                  intro values h
                  rw [Zval.array?_eq_some_iff.mpr h] at hv
                  cases hv
                simp [NamedStrings, hlegal, hno]
            | some values =>
                obtain rfl := Zval.array?_eq_some_iff.mp hv
                have hnamed : NamedStrings (key, .array values) ↔ StringList values := by
                  simp [NamedStrings, hk, headerKeyIsLegal_iff.mp hlegal]
                have hflat : flattened (.array ((key, .array values) :: rest))
                    = namedStrings name values ++ flattened (.array rest) := by
                  simp [flattened, Zval.array?, hk]
                simp only [hlegal, Bool.not_true, Bool.false_eq_true, if_false, bind_eq_ok_iff,
                  parseSendValues_eq_ok_iff, ih, hnamed, hflat]
                constructor
                · rintro ⟨_, ⟨hvalues, rfl⟩, _, ⟨hrest, rfl⟩, h⟩
                  cases h
                  exact ⟨⟨hvalues, hrest⟩, rfl⟩
                · rintro ⟨⟨hvalues, hrest⟩, rfl⟩
                  exact ⟨_, ⟨hvalues, rfl⟩, _, ⟨hrest, rfl⟩, rfl⟩
          · have hno : ¬ LegalName name := mt headerKeyIsLegal_iff.mpr hlegal
            simp [NamedStrings, hk, hlegal, hno]

/-- A metadata value is accepted exactly if it has its shape. -/
theorem parseMetadataOp_eq_ok_iff {val : Zval} {ps : Pairs} :
    parseMetadataOp val = .ok ps ↔ MetadataShape val ∧ ps = flattened val := by
  unfold parseMetadataOp MetadataShape
  cases hv : val.array? with
  | none =>
      refine iff_of_false (by simp) ?_
      rintro ⟨⟨entries, rfl, -⟩, -⟩
      cases hv
  | some entries =>
      obtain rfl := Zval.array?_eq_some_iff.mp hv
      simp [parseSendMetadata_eq_ok_iff]

/-- A message value is accepted exactly if it has its shape. -/
theorem parseMessageOp_eq_ok_iff {val : Zval} {m : Bytes} :
    parseMessageOp val = .ok m ↔ MessageShape val ∧ messagePayload val = some m := by
  unfold parseMessageOp MessageShape messagePayload
  cases hv : val.array? with
  | none =>
      refine iff_of_false (by simp) ?_
      rintro ⟨⟨entries, rfl, -⟩, -⟩
      cases hv
  | some entries =>
      obtain rfl := Zval.array?_eq_some_iff.mp hv
      have hflags : ((entries.get? "flags").any fun f ↦ f.long?.isNone) = false
          ↔ ∀ flags, entries.get? "flags" = some flags → ∃ n, flags = .long n := by
        cases entries.get? "flags" with
        | none => simp
        | some flags => cases flags <;> simp [Zval.long?]
      have hmessage : ∀ m, (entries.get? "message").bind Zval.zendStr? = some m
          ↔ entries.get? "message" = some (.string m) := by
        intro m
        cases entries.get? "message" with
        | none => simp
        | some z => simp [Zval.zendStr?_eq_some_iff]
      simp only [Option.bind_some, hmessage, Zval.array.injEq, exists_eq_left']
      split
      · next h =>
        refine iff_of_false (by simp) ?_
        rintro ⟨⟨-, hf⟩, -⟩
        rw [hflags.mpr hf] at h
        cases h
      · next h =>
        have hf := hflags.mp (by simpa using h)
        split
        · next hm =>
          refine iff_of_false (by simp) ?_
          rintro ⟨-, h⟩
          rw [(hmessage m).mpr h] at hm
          cases hm
        · next bytes hm =>
          rw [hmessage] at hm
          constructor
          · intro h
            cases h
            exact ⟨⟨⟨_, hm⟩, hf⟩, hm⟩
          · rintro ⟨-, h⟩
            rw [hm] at h
            cases h
            rfl

/-- A message value has a payload. -/
theorem MessageShape.exists_payload {val : Zval} (h : MessageShape val) :
    ∃ m, messagePayload val = some m := by
  obtain ⟨entries, rfl, ⟨bytes, hm⟩, -⟩ := h
  exact ⟨bytes, by simp [messagePayload, Zval.array?, hm, Zval.zendStr?]⟩

/-! ## One entry -/

/-- A value has the shape of its operation. -/
def Op.ValueShape (val : Zval) : Op → Prop
  | .sendInitialMetadata => MetadataShape val
  | .sendMessage => MessageShape val
  | _ => True

/-- A batch with one more operation. -/
def BatchOps.record (b : BatchOps) (val : Zval) : Op → BatchOps
  | .sendInitialMetadata =>
      { b with hasSendOps := true, hasSendInitialMetadata := true, sendMetadata := flattened val }
  | .sendMessage => { b with hasSendOps := true, sendMessage := messagePayload val }
  | .sendCloseFromClient => { b with hasSendOps := true, sendClose := true }
  | .recvInitialMetadata => { b with hasRecvOps := true, recvInitialMetadata := true }
  | .recvMessage => { b with hasRecvOps := true, recvMessage := true }
  | .recvStatusOnClient => { b with hasRecvOps := true, recvStatus := true }

/-- The codes of the operations. -/
theorem Op.ofCode_eq_some_iff {code : Int} {op : Op} :
    Op.ofCode code = some op ↔ code = op.code.val := by
  unfold Op.ofCode
  constructor
  · intro h
    split_ifs at h <;> cases h <;> assumption
  · rintro rfl
    cases op <;> rfl

/-- A key is accepted exactly if it denotes the code of an operation. -/
theorem parseKey_eq_ok_iff {key : ArrayKey} {op : Op} :
    parseKey key = .ok op ↔ key.integer? = some op.code.val := by
  have hlong : key.integer? = (arrayKeyToLong key).toOption.map Sat.val := by
    cases key with
    | long n => rfl
    | string s | str s =>
        rw [ArrayKey.integer?, arrayKeyToLong]
        cases parseI64 s <;> rfl
    | zendString bytes =>
        rw [ArrayKey.integer?, arrayKeyToLong]
        cases (fromUtf8 bytes).bind parseI64 <;> rfl
  rw [hlong, parseKey]
  cases arrayKeyToLong key with
  | error e => simp [Except.toOption]
  | ok n =>
      simp only [Except.toOption, Option.map_some, Option.some.injEq]
      rw [← Op.ofCode_eq_some_iff]
      cases Op.ofCode n.val <;> simp

/-- The entries of the grammar, by operation. -/
theorem entryShape_iff {e : ArrayKey × Zval} :
    EntryShape e ↔ ∃ op : Op, e.1.integer? = some op.code.val ∧ op.ValueShape e.2 := by
  constructor
  · rintro ⟨code, hcode, hkey, hmetadata, hmessage⟩
    simp only [List.mem_cons, List.not_mem_nil, or_false] at hcode
    rcases hcode with rfl | rfl | rfl | rfl | rfl | rfl
    · exact ⟨.sendInitialMetadata, hkey, hmetadata rfl⟩
    · exact ⟨.sendMessage, hkey, hmessage rfl⟩
    · exact ⟨.sendCloseFromClient, hkey, trivial⟩
    · exact ⟨.recvInitialMetadata, hkey, trivial⟩
    · exact ⟨.recvMessage, hkey, trivial⟩
    · exact ⟨.recvStatusOnClient, hkey, trivial⟩
  · rintro ⟨op, hkey, hval⟩
    refine ⟨op.code.val, by cases op <;> decide, hkey, fun h ↦ ?_, fun h ↦ ?_⟩
    · obtain rfl : op = .sendInitialMetadata := by cases op <;> first | rfl | cases h
      exact hval
    · obtain rfl : op = .sendMessage := by cases op <;> first | rfl | cases h
      exact hval

/-- **One iteration** accepts an entry exactly if it has its shape, and records it. -/
theorem parseOp_eq_ok_iff {b b' : BatchOps} {e : ArrayKey × Zval} :
    parseOp b e = .ok b' ↔ ∃ op : Op, e.1.integer? = some op.code.val ∧ op.ValueShape e.2
      ∧ b' = b.record e.2 op := by
  unfold parseOp
  simp only [bind_eq_ok_iff, parseKey_eq_ok_iff]
  refine exists_congr fun op ↦ and_congr_right fun _ ↦ ?_
  cases op with
  | sendInitialMetadata =>
      simp only [bind_eq_ok_iff, parseMetadataOp_eq_ok_iff, Op.ValueShape, BatchOps.record]
      constructor
      · rintro ⟨_, ⟨hval, rfl⟩, h⟩
        cases h
        exact ⟨hval, rfl⟩
      · rintro ⟨hval, rfl⟩
        exact ⟨_, ⟨hval, rfl⟩, rfl⟩
  | sendMessage =>
      simp only [bind_eq_ok_iff, parseMessageOp_eq_ok_iff, Op.ValueShape, BatchOps.record]
      constructor
      · rintro ⟨m, ⟨hval, hm⟩, h⟩
        cases h
        exact ⟨hval, by rw [hm]⟩
      · rintro ⟨hval, rfl⟩
        obtain ⟨m, hm⟩ := hval.exists_payload
        exact ⟨m, ⟨hval, hm⟩, by rw [hm]; rfl⟩
  | sendCloseFromClient | recvInitialMetadata | recvMessage | recvStatusOnClient =>
      simp [Op.ValueShape, BatchOps.record, pure, Except.pure, eq_comm]

/-! ## Whole arrays -/

/-- One more code. -/
theorem opCodes_concat {ops : ZendHashTable} {e : ArrayKey × Zval} {code : Int}
    (h : e.1.integer? = some code) : opCodes (ops ++ [e]) = opCodes ops ++ [code] := by
  simp [opCodes, h]

/-- One more value under its code, and none under another. -/
theorem opValues_concat {ops : ZendHashTable} {e : ArrayKey × Zval} {code : Int}
    (h : e.1.integer? = some code) (code' : Int) :
    opValues (ops ++ [e]) code' = opValues ops code' ++ if code = code' then [e.2] else [] := by
  by_cases hc : code = code' <;> simp [opValues, h, hc]

/-- The description of an array with one more entry. -/
theorem BatchOps.described_concat {ops : ZendHashTable} {e : ArrayKey × Zval} {op : Op}
    (h : e.1.integer? = some op.code.val) :
    described (ops ++ [e]) = (described ops).record e.2 op := by
  unfold described
  rw [opCodes_concat h, opValues_concat h, opValues_concat h]
  cases op <;>
    simp [record, Op.code, I64.ofInt, OP_SEND_INITIAL_METADATA, OP_SEND_MESSAGE,
      OP_SEND_CLOSE_FROM_CLIENT, OP_RECV_INITIAL_METADATA, OP_RECV_MESSAGE,
      OP_RECV_STATUS_ON_CLIENT]

/-- **The parser accepts exactly its grammar**, and gives the batch an array describes. -/
theorem parseOps_eq_ok_iff {ops : ZendHashTable} {b : BatchOps} :
    parseOps ops = .ok b ↔ (∀ e ∈ ops, EntryShape e) ∧ b = BatchOps.described ops := by
  induction ops using List.reverseRecOn generalizing b with
  | nil => simp [parseOps, pure, Except.pure, BatchOps.described, opCodes, opValues, eq_comm]
  | append_singleton ops e ih =>
      rw [parseOps, foldlM_concat_eq_ok_iff, List.forall_mem_append, List.forall_mem_singleton]
      constructor
      · rintro ⟨b₀, h₀, h⟩
        obtain ⟨hops, rfl⟩ := ih.mp h₀
        obtain ⟨op, hkey, hval, rfl⟩ := parseOp_eq_ok_iff.mp h
        exact ⟨⟨hops, entryShape_iff.mpr ⟨op, hkey, hval⟩⟩, (BatchOps.described_concat hkey).symm⟩
      · rintro ⟨⟨hops, he⟩, rfl⟩
        obtain ⟨op, hkey, hval⟩ := entryShape_iff.mp he
        exact ⟨_, ih.mpr ⟨hops, rfl⟩,
          parseOp_eq_ok_iff.mpr ⟨op, hkey, hval, BatchOps.described_concat hkey⟩⟩

/-! ## The order of the entries -/

/-- A code has as many values as it occurs. -/
theorem length_opValues (ops : ZendHashTable) (code : Int) :
    (opValues ops code).length = (opCodes ops).count code := by
  induction ops with
  | nil => rfl
  | cons e ops ih =>
      rw [opValues, opCodes] at ih ⊢
      cases h : e.1.integer? with
      | none => simpa [h] using ih
      | some code' =>
          by_cases hc : code' = code
          · subst hc
            simpa [h] using ih
          · simpa [h, hc] using ih

/-- A code that occurs once has the same value in any order. -/
theorem opValues_perm {ops ops' : ZendHashTable} (h : ops.Perm ops') (hnd : (opCodes ops).Nodup)
    (code : Int) : opValues ops code = opValues ops' code := by
  have hperm : (opValues ops code).Perm (opValues ops' code) := h.filterMap _
  have hlen : (opValues ops code).length ≤ 1 := by
    rw [length_opValues]
    exact List.nodup_iff_count.mp hnd code
  cases hv : opValues ops code with
  | nil =>
      rw [hv] at hperm
      exact hperm.nil_eq
  | cons v vs =>
      rw [hv] at hperm hlen
      obtain rfl : vs = [] := List.eq_nil_of_length_eq_zero (by simpa using hlen)
      exact hperm.singleton_eq

/-- Arrays with distinct codes describe the same batch in any order. -/
theorem BatchOps.described_perm {ops ops' : ZendHashTable} (h : ops.Perm ops')
    (hnd : (opCodes ops).Nodup) : described ops = described ops' := by
  have hcodes : (opCodes ops).Perm (opCodes ops') := h.filterMap _
  unfold described
  simp only [opValues_perm h hnd, hcodes.contains_eq, hcodes.any_eq]

/-- **The batch parser.**  It accepts exactly the arrays of its grammar and gives the batch
they describe; and if the keys denote distinct codes, any order of the entries is accepted or
rejected alike and gives the same batch. -/
theorem parseOps_grammar :
    (∀ (ops : ZendHashTable) (b : BatchOps),
      parseOps ops = .ok b ↔ (∀ e ∈ ops, EntryShape e) ∧ b = BatchOps.described ops)
    ∧ ∀ ops ops' : ZendHashTable, ops.Perm ops' → (opCodes ops).Nodup →
      (parseOps ops).toOption = (parseOps ops').toOption := by
  refine ⟨fun ops b ↦ parseOps_eq_ok_iff, fun ops ops' hperm hnd ↦ ?_⟩
  ext b
  rw [toOption_eq_some_iff, toOption_eq_some_iff, parseOps_eq_ok_iff, parseOps_eq_ok_iff,
    BatchOps.described_perm hperm hnd]
  refine and_congr_left fun _ ↦ ?_
  exact ⟨fun h e he ↦ h e (hperm.mem_iff.mpr he), fun h e he ↦ h e (hperm.mem_iff.mp he)⟩

/-- Two orders of a message and a close. -/
theorem parseOps_swapped :
    (parseOps [messageOp [1], Op.sendCloseFromClient.flag]).toOption
      = (parseOps [Op.sendCloseFromClient.flag, messageOp [1]]).toOption :=
  parseOps_grammar.2 _ _ (List.Perm.swap _ _ _) (by decide)

end GrpcPhp
