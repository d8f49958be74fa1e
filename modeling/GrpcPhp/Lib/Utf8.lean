import GrpcPhp.Lib.Text

/-!
# Decoding what was encoded

The lossy decoder of `GrpcPhp/Lib/Text` never fails.  On the bytes of a text it loses nothing:
each character is read back from its one to four bytes (`Utf8.nextChar_utf8EncodeChar`), and so
the whole text is (`fromUtf8Lossy_toUtf8`).  On any other bytes it puts at least one U+FFFD
(`fromUtf8_of_replacement_not_mem`).
-/

namespace GrpcPhp.Lib

namespace Utf8

/-! ## Bytes as numbers -/

theorem within_iff {lo hi b : UInt8} :
    within lo hi b = true ↔ lo.toNat ≤ b.toNat ∧ b.toNat ≤ hi.toNat := by
  rw [within, Bool.and_eq_true, decide_eq_true_eq, decide_eq_true_eq, UInt8.le_iff_toNat_le,
    UInt8.le_iff_toNat_le]

theorem toNat_byte {n : ℕ} (h : n < 256) : (UInt8.ofNat n).toNat = n := by
  rw [UInt8.toNat_ofNat', Nat.mod_eq_of_lt h]

/-- A continuation byte that others follow. -/
theorem continuation_succ {acc more n : ℕ} {lo hi : UInt8} {rest : Bytes} (hn : n < 64)
    (hlo : lo.toNat ≤ n + 128) (hhi : n + 128 ≤ hi.toNat) :
    continuation acc lo hi (more + 1) (UInt8.ofNat (n + 128) :: rest)
      = continuation (acc * 64 + n) 0x80 0xBF more rest := by
  have hb := toNat_byte (n := n + 128) (by omega)
  have hpay : payload (UInt8.ofNat (n + 128)) = n := by
    rw [payload, hb]
    omega
  rw [continuation, if_pos (within_iff.mpr (by rw [hb]; exact ⟨hlo, hhi⟩)), hpay]

/-- The last continuation byte. -/
theorem continuation_zero {acc n : ℕ} {rest : Bytes} (hn : n < 64) :
    continuation acc 0x80 0xBF 0 (UInt8.ofNat (n + 128) :: rest)
      = (Char.ofNat (acc * 64 + n), rest) := by
  have hb := toNat_byte (n := n + 128) (by omega)
  have hpay : payload (UInt8.ofNat (n + 128)) = n := by
    rw [payload, hb]
    omega
  have hhi : n + 128 ≤ (0xBF : UInt8).toNat := by
    show n + 128 ≤ 191
    omega
  rw [continuation, if_pos (within_iff.mpr (by rw [hb]; exact ⟨Nat.le_add_left 128 n, hhi⟩)), hpay]

/-- The first byte decides by its number. -/
theorem nextChar_eq (b : UInt8) (rest : Bytes) : nextChar b rest =
    if b.toNat < 128 then (Char.ofNat b.toNat, rest)
    else if 194 ≤ b.toNat ∧ b.toNat ≤ 223 then continuation (b.toNat % 32) 0x80 0xBF 0 rest
    else if b.toNat = 224 then continuation (b.toNat % 16) 0xA0 0xBF 1 rest
    else if b.toNat = 237 then continuation (b.toNat % 16) 0x80 0x9F 1 rest
    else if 225 ≤ b.toNat ∧ b.toNat ≤ 239 then continuation (b.toNat % 16) 0x80 0xBF 1 rest
    else if b.toNat = 240 then continuation (b.toNat % 8) 0x90 0xBF 2 rest
    else if 241 ≤ b.toNat ∧ b.toNat ≤ 243 then continuation (b.toNat % 8) 0x80 0xBF 2 rest
    else if b.toNat = 244 then continuation (b.toNat % 8) 0x80 0x8F 2 rest
    else (replacement, rest) := by
  simp only [nextChar, within_iff, UInt8.lt_iff_toNat_lt, ← UInt8.toNat_inj]
  rfl

/-! ## One character -/

variable {c : Char} {rest : Bytes}

/-- One byte. -/
theorem nextChar_one (h : c.toNat ≤ 127) : nextChar (UInt8.ofNat c.toNat) rest = (c, rest) := by
  have hb := toNat_byte (n := c.toNat) (by omega)
  rw [nextChar_eq, hb, if_pos (by omega), Char.ofNat_toNat]

/-- Two bytes. -/
theorem nextChar_two (h₁ : 127 < c.toNat) (h₂ : c.toNat ≤ 2047) :
    nextChar (UInt8.ofNat (c.toNat / 64 % 32 + 192)) (UInt8.ofNat (c.toNat % 64 + 128) :: rest)
      = (c, rest) := by
  have hb := toNat_byte (n := c.toNat / 64 % 32 + 192) (by omega)
  have hv : (c.toNat / 64 % 32 + 192) % 32 * 64 + c.toNat % 64 = c.toNat := by omega
  rw [nextChar_eq, hb, if_neg (by omega), if_pos (by omega), continuation_zero (by omega), hv,
    Char.ofNat_toNat]

/-- Three bytes.  No character is a surrogate, so that the bytes after `0xED` are in range. -/
theorem nextChar_three (h₁ : 2047 < c.toNat) (h₂ : c.toNat ≤ 65535) :
    nextChar (UInt8.ofNat (c.toNat / 4096 % 16 + 224))
        (UInt8.ofNat (c.toNat / 64 % 64 + 128) :: UInt8.ofNat (c.toNat % 64 + 128) :: rest)
      = (c, rest) := by
  have hb := toNat_byte (n := c.toNat / 4096 % 16 + 224) (by omega)
  have hv : ((c.toNat / 4096 % 16 + 224) % 16 * 64 + c.toNat / 64 % 64) * 64 + c.toNat % 64
      = c.toNat := by omega
  have hsurrogate : c.toNat < 55296 ∨ 57343 < c.toNat := c.valid.imp id And.left
  have htail {lo hi : UInt8} (hlo : lo.toNat ≤ c.toNat / 64 % 64 + 128)
      (hhi : c.toNat / 64 % 64 + 128 ≤ hi.toNat) :
      continuation ((c.toNat / 4096 % 16 + 224) % 16) lo hi 1
        (UInt8.ofNat (c.toNat / 64 % 64 + 128) :: UInt8.ofNat (c.toNat % 64 + 128) :: rest)
        = (c, rest) := by
    rw [continuation_succ (by omega) hlo hhi, continuation_zero (by omega), hv, Char.ofNat_toNat]
  rw [nextChar_eq, hb, if_neg (by omega), if_neg (by omega)]
  split
  · exact htail (show 160 ≤ _ by omega) (show _ ≤ 191 by omega)
  · split
    · exact htail (show 128 ≤ _ by omega) (show _ ≤ 159 by omega)
    · rw [if_pos (by omega)]
      exact htail (show 128 ≤ _ by omega) (show _ ≤ 191 by omega)

/-- Four bytes. -/
theorem nextChar_four (h : 65535 < c.toNat) :
    nextChar (UInt8.ofNat (c.toNat / 262144 % 8 + 240))
        (UInt8.ofNat (c.toNat / 4096 % 64 + 128) :: UInt8.ofNat (c.toNat / 64 % 64 + 128)
          :: UInt8.ofNat (c.toNat % 64 + 128) :: rest)
      = (c, rest) := by
  have hb := toNat_byte (n := c.toNat / 262144 % 8 + 240) (by omega)
  have hmax : c.toNat < 1114112 := c.valid.elim (fun (hc : c.toNat < 55296) ↦ by omega) And.right
  have hv : (((c.toNat / 262144 % 8 + 240) % 8 * 64 + c.toNat / 4096 % 64) * 64
      + c.toNat / 64 % 64) * 64 + c.toNat % 64 = c.toNat := by omega
  have htail {lo hi : UInt8} (hlo : lo.toNat ≤ c.toNat / 4096 % 64 + 128)
      (hhi : c.toNat / 4096 % 64 + 128 ≤ hi.toNat) :
      continuation ((c.toNat / 262144 % 8 + 240) % 8) lo hi 2
        (UInt8.ofNat (c.toNat / 4096 % 64 + 128) :: UInt8.ofNat (c.toNat / 64 % 64 + 128)
          :: UInt8.ofNat (c.toNat % 64 + 128) :: rest)
        = (c, rest) := by
    rw [continuation_succ (by omega) hlo hhi,
      continuation_succ (by omega) (show 128 ≤ _ by omega) (show _ ≤ 191 by omega),
      continuation_zero (by omega), hv, Char.ofNat_toNat]
  rw [nextChar_eq, hb]
  iterate 5 rw [if_neg (by omega)]
  split
  · exact htail (show 144 ≤ _ by omega) (show _ ≤ 191 by omega)
  · split
    · exact htail (show 128 ≤ _ by omega) (show _ ≤ 191 by omega)
    · rw [if_pos (by omega)]
      exact htail (show 128 ≤ _ by omega) (show _ ≤ 143 by omega)

/-- A character is read back from its bytes. -/
theorem nextChar_utf8EncodeChar (c : Char) (rest : Bytes) :
    ∃ b bs, String.utf8EncodeChar c = b :: bs ∧ nextChar b (bs ++ rest) = (c, rest) := by
  have heq : c.val.toNat = c.toNat := rfl
  simp only [String.utf8EncodeChar, heq]
  split
  · next h => exact ⟨_, _, rfl, nextChar_one h⟩
  · next h₁ =>
    split
    · next h₂ => exact ⟨_, _, rfl, nextChar_two (by omega) h₂⟩
    · next h₂ =>
      split
      · next h₃ => exact ⟨_, _, rfl, nextChar_three (by omega) h₃⟩
      · next h₃ => exact ⟨_, _, rfl, nextChar_four (by omega)⟩

/-- Encoded characters are read one after the other. -/
theorem decode_append (cs : List Char) (rest : Bytes) {fuel : ℕ} (h : cs.length ≤ fuel) :
    decode fuel (cs.flatMap String.utf8EncodeChar ++ rest)
      = cs ++ decode (fuel - cs.length) rest := by
  induction cs generalizing fuel with
  | nil => rfl
  | cons c cs ih =>
      obtain ⟨b, bs, hc, hnext⟩ :=
        nextChar_utf8EncodeChar c (cs.flatMap String.utf8EncodeChar ++ rest)
      cases fuel with
      | zero => simp at h
      | succ fuel =>
          rw [List.flatMap_cons, hc, List.append_assoc, List.cons_append, decode, hnext,
            List.length_cons, Nat.add_sub_add_right]
          exact congrArg (c :: ·) (ih (by simpa using h))

/-- An encoded text is read back. -/
theorem decode_flatMap (cs : List Char) {fuel : ℕ} (h : cs.length ≤ fuel) :
    decode fuel (cs.flatMap String.utf8EncodeChar) = cs := by
  have hread := decode_append cs [] h
  rwa [List.append_nil, decode, List.append_nil] at hread

/-- A character has an encoding. -/
theorem length_le_flatMap (cs : List Char) :
    cs.length ≤ (cs.flatMap String.utf8EncodeChar).length := by
  induction cs with
  | nil => exact Nat.zero_le _
  | cons c cs ih =>
      obtain ⟨b, bs, hc, -⟩ := nextChar_utf8EncodeChar c []
      rw [List.flatMap_cons, hc, List.length_append, List.length_cons, List.length_cons]
      omega

/-! ## Bytes that are no text -/

/-- A byte, from its number. -/
theorem ofNat_eq {n : ℕ} {b : UInt8} (h : n = b.toNat) : UInt8.ofNat n = b := by
  rw [h, UInt8.ofNat_toNat]

/-- The number of a character that is made from it. -/
theorem val_ofNat {n : ℕ} (h : n.isValidChar) : (Char.ofNat n).val.toNat = n := by
  rw [Char.ofNat, dif_pos h]
  rfl

/-- The last continuation byte was read. -/
theorem continuation_zero_inv {acc : ℕ} {lo hi : UInt8} {rest rest' : Bytes}
    (h : continuation acc lo hi 0 rest = (c, rest')) (hc : c ≠ replacement) :
    ∃ b, rest = b :: rest' ∧ (lo.toNat ≤ b.toNat ∧ b.toNat ≤ hi.toNat)
      ∧ c = Char.ofNat (acc * 64 + b.toNat % 64) := by
  cases rest with
  | nil => exact absurd (congrArg Prod.fst h).symm hc
  | cons b rest =>
      rw [continuation] at h
      split at h
      · next hb =>
        obtain ⟨rfl, rfl⟩ := Prod.mk.inj h
        exact ⟨b, rfl, within_iff.mp hb, rfl⟩
      · exact absurd (congrArg Prod.fst h).symm hc

/-- A continuation byte that others follow was read. -/
theorem continuation_succ_inv {acc more : ℕ} {lo hi : UInt8} {rest rest' : Bytes}
    (h : continuation acc lo hi (more + 1) rest = (c, rest')) (hc : c ≠ replacement) :
    ∃ b rest₁, rest = b :: rest₁ ∧ (lo.toNat ≤ b.toNat ∧ b.toNat ≤ hi.toNat)
      ∧ continuation (acc * 64 + b.toNat % 64) 0x80 0xBF more rest₁ = (c, rest') := by
  cases rest with
  | nil => exact absurd (congrArg Prod.fst h).symm hc
  | cons b rest =>
      rw [continuation] at h
      split at h
      · next hb => exact ⟨b, rest, rfl, within_iff.mp hb, h⟩
      · exact absurd (congrArg Prod.fst h).symm hc

section

variable {b b₁ b₂ b₃ : UInt8}

theorem utf8EncodeChar_one (hb : b.toNat < 128) :
    String.utf8EncodeChar (Char.ofNat b.toNat) = [b] := by
  have hv : (Char.ofNat b.toNat).val.toNat = b.toNat := val_ofNat (.inl (by omega))
  simp only [String.utf8EncodeChar, hv]
  rw [if_pos (by omega), ofNat_eq rfl]

theorem utf8EncodeChar_two (hb : 194 ≤ b.toNat ∧ b.toNat ≤ 223)
    (h₁ : 128 ≤ b₁.toNat ∧ b₁.toNat ≤ 191) :
    String.utf8EncodeChar (Char.ofNat (b.toNat % 32 * 64 + b₁.toNat % 64)) = [b, b₁] := by
  have hv : (Char.ofNat (b.toNat % 32 * 64 + b₁.toNat % 64)).val.toNat
      = b.toNat % 32 * 64 + b₁.toNat % 64 :=
    val_ofNat (.inl (by omega))
  simp only [String.utf8EncodeChar, hv]
  rw [if_neg (by omega), if_pos (by omega), ofNat_eq (b := b) (by omega),
    ofNat_eq (b := b₁) (by omega)]

theorem utf8EncodeChar_three (hb : 224 ≤ b.toNat ∧ b.toNat ≤ 239)
    (h₁ : 128 ≤ b₁.toNat ∧ b₁.toNat ≤ 191) (h₂ : 128 ≤ b₂.toNat ∧ b₂.toNat ≤ 191)
    (hshort : b.toNat = 224 → 160 ≤ b₁.toNat) (hsurrogate : b.toNat = 237 → b₁.toNat ≤ 159) :
    String.utf8EncodeChar (Char.ofNat ((b.toNat % 16 * 64 + b₁.toNat % 64) * 64 + b₂.toNat % 64))
      = [b, b₁, b₂] := by
  have hv : (Char.ofNat ((b.toNat % 16 * 64 + b₁.toNat % 64) * 64 + b₂.toNat % 64)).val.toNat
      = (b.toNat % 16 * 64 + b₁.toNat % 64) * 64 + b₂.toNat % 64 := by
    refine val_ofNat ?_
    rcases Nat.lt_or_ge b.toNat 238 with hlt | hge
    · exact .inl (by omega)
    · exact .inr ⟨by omega, by omega⟩
  simp only [String.utf8EncodeChar, hv]
  rw [if_neg (by omega), if_neg (by omega), if_pos (by omega), ofNat_eq (b := b) (by omega),
    ofNat_eq (b := b₁) (by omega), ofNat_eq (b := b₂) (by omega)]

theorem utf8EncodeChar_four (hb : 240 ≤ b.toNat ∧ b.toNat ≤ 244)
    (h₁ : 128 ≤ b₁.toNat ∧ b₁.toNat ≤ 191) (h₂ : 128 ≤ b₂.toNat ∧ b₂.toNat ≤ 191)
    (h₃ : 128 ≤ b₃.toNat ∧ b₃.toNat ≤ 191)
    (hshort : b.toNat = 240 → 144 ≤ b₁.toNat) (hlong : b.toNat = 244 → b₁.toNat ≤ 143) :
    String.utf8EncodeChar (Char.ofNat
        (((b.toNat % 8 * 64 + b₁.toNat % 64) * 64 + b₂.toNat % 64) * 64 + b₃.toNat % 64))
      = [b, b₁, b₂, b₃] := by
  have hv : (Char.ofNat
      (((b.toNat % 8 * 64 + b₁.toNat % 64) * 64 + b₂.toNat % 64) * 64 + b₃.toNat % 64)).val.toNat
      = ((b.toNat % 8 * 64 + b₁.toNat % 64) * 64 + b₂.toNat % 64) * 64 + b₃.toNat % 64 :=
    val_ofNat (.inr ⟨by omega, by omega⟩)
  simp only [String.utf8EncodeChar, hv]
  rw [if_neg (by omega), if_neg (by omega), if_neg (by omega), ofNat_eq (b := b) (by omega),
    ofNat_eq (b := b₁) (by omega), ofNat_eq (b := b₂) (by omega), ofNat_eq (b := b₃) (by omega)]

end

section

variable {b lo hi : UInt8} {rest' : Bytes}

/-- A sequence of two bytes. -/
theorem two_inv (hb : 194 ≤ b.toNat ∧ b.toNat ≤ 223)
    (h : continuation (b.toNat % 32) 0x80 0xBF 0 rest = (c, rest')) (hc : c ≠ replacement) :
    b :: rest = String.utf8EncodeChar c ++ rest' := by
  obtain ⟨b₁, rfl, h₁, rfl⟩ := continuation_zero_inv h hc
  rw [utf8EncodeChar_two hb h₁]
  rfl

/-- A sequence of three bytes. -/
theorem three_inv (hb : 224 ≤ b.toNat ∧ b.toNat ≤ 239)
    (h : continuation (b.toNat % 16) lo hi 1 rest = (c, rest')) (hc : c ≠ replacement)
    (hlo : 128 ≤ lo.toNat) (hhi : hi.toNat ≤ 191) (hshort : b.toNat = 224 → 160 ≤ lo.toNat)
    (hsurrogate : b.toNat = 237 → hi.toNat ≤ 159) :
    b :: rest = String.utf8EncodeChar c ++ rest' := by
  obtain ⟨b₁, rest₁, rfl, h₁, h⟩ := continuation_succ_inv h hc
  obtain ⟨b₂, rfl, h₂, rfl⟩ := continuation_zero_inv h hc
  rw [utf8EncodeChar_three hb ⟨hlo.trans h₁.1, h₁.2.trans hhi⟩ h₂
    (fun heq ↦ (hshort heq).trans h₁.1) fun heq ↦ h₁.2.trans (hsurrogate heq)]
  rfl

/-- A sequence of four bytes. -/
theorem four_inv (hb : 240 ≤ b.toNat ∧ b.toNat ≤ 244)
    (h : continuation (b.toNat % 8) lo hi 2 rest = (c, rest')) (hc : c ≠ replacement)
    (hlo : 128 ≤ lo.toNat) (hhi : hi.toNat ≤ 191) (hshort : b.toNat = 240 → 144 ≤ lo.toNat)
    (hlong : b.toNat = 244 → hi.toNat ≤ 143) : b :: rest = String.utf8EncodeChar c ++ rest' := by
  obtain ⟨b₁, rest₁, rfl, h₁, h⟩ := continuation_succ_inv h hc
  obtain ⟨b₂, rest₂, rfl, h₂, h⟩ := continuation_succ_inv h hc
  obtain ⟨b₃, rfl, h₃, rfl⟩ := continuation_zero_inv h hc
  rw [utf8EncodeChar_four hb ⟨hlo.trans h₁.1, h₁.2.trans hhi⟩ h₂ h₃
    (fun heq ↦ (hshort heq).trans h₁.1) fun heq ↦ h₁.2.trans (hlong heq)]
  rfl

/-- Bytes that are not read as U+FFFD are those of the character that is read. -/
theorem eq_utf8EncodeChar_of_nextChar (h : nextChar b rest = (c, rest')) (hc : c ≠ replacement) :
    b :: rest = String.utf8EncodeChar c ++ rest' := by
  rw [nextChar_eq] at h
  split at h
  · next hb =>
    obtain ⟨rfl, rfl⟩ := Prod.mk.inj h
    rw [utf8EncodeChar_one hb]
    rfl
  split at h
  · next hb => exact two_inv hb h hc
  split at h
  · next hb =>
    exact three_inv (by omega) h hc (show 128 ≤ 160 by decide) (show 191 ≤ 191 by decide)
      (fun _ ↦ show 160 ≤ 160 by decide) (by omega)
  split at h
  · next hb =>
    exact three_inv (by omega) h hc (show 128 ≤ 128 by decide) (show 159 ≤ 191 by decide)
      (by omega) (fun _ ↦ show 159 ≤ 159 by decide)
  split at h
  · next hb =>
    exact three_inv (by omega) h hc (show 128 ≤ 128 by decide) (show 191 ≤ 191 by decide)
      (by omega) (by omega)
  split at h
  · next hb =>
    exact four_inv (by omega) h hc (show 128 ≤ 144 by decide) (show 191 ≤ 191 by decide)
      (fun _ ↦ show 144 ≤ 144 by decide) (by omega)
  split at h
  · next hb =>
    exact four_inv (by omega) h hc (show 128 ≤ 128 by decide) (show 191 ≤ 191 by decide)
      (by omega) (by omega)
  split at h
  · next hb =>
    exact four_inv (by omega) h hc (show 128 ≤ 128 by decide) (show 143 ≤ 191 by decide)
      (by omega) (fun _ ↦ show 143 ≤ 143 by decide)
  · exact absurd (congrArg Prod.fst h).symm hc

end

/-- Bytes that are read without U+FFFD are those of the characters that are read. -/
theorem eq_flatMap_of_decode {fuel : ℕ} {bs : Bytes} (hlen : bs.length ≤ fuel)
    (h : replacement ∉ decode fuel bs) : bs = (decode fuel bs).flatMap String.utf8EncodeChar := by
  induction fuel generalizing bs with
  | zero =>
      obtain rfl := List.eq_nil_of_length_eq_zero (Nat.le_zero.mp hlen)
      rfl
  | succ fuel ih =>
      cases bs with
      | nil => rfl
      | cons b rest =>
          rw [decode, List.mem_cons, not_or] at h
          have hhead : b :: rest
              = String.utf8EncodeChar (nextChar b rest).1 ++ (nextChar b rest).2 :=
            eq_utf8EncodeChar_of_nextChar rfl (Ne.symm h.1)
          have hrest : (nextChar b rest).2.length ≤ fuel := by
            obtain ⟨b', bs, hc, -⟩ := nextChar_utf8EncodeChar (nextChar b rest).1 []
            have := congrArg List.length hhead
            rw [hc, List.length_append, List.length_cons, List.length_cons] at this
            rw [List.length_cons] at hlen
            omega
          rw [decode, List.flatMap_cons, ← ih hrest h.2]
          exact hhead

end Utf8

theorem toUtf8_eq (s : String) : toUtf8 s = s.toList.flatMap String.utf8EncodeChar := by
  rw [toUtf8, String.toUTF8, ← String.utf8Encode_toList, List.utf8Encode]
  simp

/-- **A text is read back from its bytes.** -/
theorem fromUtf8Lossy_toUtf8 (s : String) : fromUtf8Lossy (toUtf8 s) = s := by
  rw [fromUtf8Lossy, toUtf8_eq, Utf8.decode_flatMap _ (Utf8.length_le_flatMap _),
    String.ofList_toList]

/-- A byte string that is a text is decoded as this text. -/
theorem fromUtf8Lossy_of_fromUtf8 {bs : Bytes} {s : String} (h : fromUtf8 bs = some s) :
    fromUtf8Lossy bs = s := by
  rw [fromUtf8_eq_some_iff.mp h, fromUtf8Lossy_toUtf8]

/-- **Bytes that are no text are decoded with U+FFFD.** -/
theorem fromUtf8_of_replacement_not_mem {bs : Bytes}
    (h : Utf8.replacement ∉ (fromUtf8Lossy bs).toList) : fromUtf8 bs = some (fromUtf8Lossy bs) := by
  rw [fromUtf8_eq_some_iff, toUtf8_eq]
  rw [fromUtf8Lossy, String.toList_ofList] at h ⊢
  exact Utf8.eq_flatMap_of_decode le_rfl h

/-- A text with U+FFFD is also read from bytes that are no text: a byte that starts nothing
stands for the character. -/
theorem exists_fromUtf8_eq_none {s : String} (h : Utf8.replacement ∈ s.toList) :
    ∃ bs, fromUtf8 bs = none ∧ fromUtf8Lossy bs = s := by
  obtain ⟨xs, ys, hs⟩ := List.append_of_mem h
  let enc : List Char → Bytes := List.flatMap String.utf8EncodeChar
  have hlossy : fromUtf8Lossy (enc xs ++ 0xFF :: enc ys) = s := by
    have hx : xs.length ≤ (enc xs).length := Utf8.length_le_flatMap xs
    have hy : ys.length ≤ (enc ys).length := Utf8.length_le_flatMap ys
    have hstep (fuel : ℕ) (bytes : Bytes) :
        Utf8.decode (fuel + 1) (0xFF :: bytes) = Utf8.replacement :: Utf8.decode fuel bytes := rfl
    obtain ⟨fuel, hfuel, hle⟩ :
        ∃ fuel, (enc xs ++ 0xFF :: enc ys).length - xs.length = fuel + 1 ∧ ys.length ≤ fuel := by
      refine ⟨(enc xs).length - xs.length + (enc ys).length, ?_, ?_⟩
      · rw [List.length_append, List.length_cons]
        omega
      · omega
    rw [fromUtf8Lossy, Utf8.decode_append, hfuel, hstep, Utf8.decode_flatMap _ hle, ← hs,
      String.ofList_toList]
    exact hx.trans (by simp)
  refine ⟨_, ?_, hlossy⟩
  cases hbs : fromUtf8 (enc xs ++ 0xFF :: enc ys) with
  | none => rfl
  | some t =>
      obtain rfl : s = t := hlossy.symm.trans (fromUtf8Lossy_of_fromUtf8 hbs)
      have heq := fromUtf8_eq_some_iff.mp hbs
      rw [toUtf8_eq, hs, List.flatMap_append, List.append_cancel_left_eq, List.flatMap_cons] at heq
      -- the encoding of U+FFFD starts with another byte
      have hstart : String.utf8EncodeChar Utf8.replacement = [0xEF, 0xBF, 0xBD] := by decide
      rw [hstart, List.cons_append, List.cons.injEq] at heq
      exact absurd heq.1 (by decide)

end GrpcPhp.Lib
