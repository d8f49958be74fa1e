import GrpcPhp.Lib.Saturating

/-!
# Text from bytes

Conversions of the Rust standard library, on byte lists: the checked UTF-8 decoding
`str::from_utf8` and its inverse, the lossy decoding `String::from_utf8_lossy`, and
`str::parse::<i64>`.

The lossy decoder follows the standard's practice of replacing each *maximal
subpart* of an ill-formed sequence by one U+FFFD: `nextChar` consumes the bytes of
one well-formed sequence, or as many bytes of an ill-formed one as could have
started a well-formed one, and always at least one.
-/

namespace GrpcPhp.Lib

/-- A byte string. -/
abbrev Bytes := List UInt8

/-- `str::from_utf8`. -/
def fromUtf8 (bs : Bytes) : Option String := String.fromUTF8? ⟨bs.toArray⟩

/-- `str::as_bytes`. -/
def toUtf8 (s : String) : Bytes := s.toUTF8.data.toList

/-- A text is decoded from its own bytes, and from no others. -/
theorem fromUtf8_eq_some_iff {bs : Bytes} {s : String} : fromUtf8 bs = some s ↔ bs = toUtf8 s := by
  unfold fromUtf8 toUtf8 String.fromUTF8?
  constructor
  · intro h
    split at h
    · cases h
      simp [String.toUTF8, String.fromUTF8]
    · cases h
  · rintro rfl
    have hbytes : (⟨s.toUTF8.data.toList.toArray⟩ : ByteArray) = s.toUTF8 := by simp
    rw [hbytes]
    simp [String.toUTF8, s.isValidUTF8, String.fromUTF8]

namespace Utf8

/-- U+FFFD, the replacement character. -/
def replacement : Char := Char.ofNat 0xFFFD

/-- The payload bits of a continuation byte. -/
def payload (b : UInt8) : Nat := b.toNat % 64

/-- Whether a byte is between two others. -/
def within (lo hi b : UInt8) : Bool := lo ≤ b && b ≤ hi

/-- The rest of a sequence whose first byte contributed `acc`: the next byte has to
lie between `lo` and `hi`, the `more` bytes after it are ordinary continuation
bytes. -/
def continuation (acc : Nat) (lo hi : UInt8) : Nat → Bytes → Char × Bytes
  | _, [] => (replacement, [])
  | more, b :: rest =>
      if within lo hi b then
        match more with
        | 0 => (Char.ofNat (acc * 64 + payload b), rest)
        | more + 1 => continuation (acc * 64 + payload b) 0x80 0xBF more rest
      else (replacement, b :: rest)

/-- Decode the sequence that starts with the byte `b`. -/
def nextChar (b : UInt8) (rest : Bytes) : Char × Bytes :=
  if b < 0x80 then (Char.ofNat b.toNat, rest)
  else if within 0xC2 0xDF b then continuation (b.toNat % 32) 0x80 0xBF 0 rest
  else if b = 0xE0 then continuation (b.toNat % 16) 0xA0 0xBF 1 rest
  else if b = 0xED then continuation (b.toNat % 16) 0x80 0x9F 1 rest
  else if within 0xE1 0xEF b then continuation (b.toNat % 16) 0x80 0xBF 1 rest
  else if b = 0xF0 then continuation (b.toNat % 8) 0x90 0xBF 2 rest
  else if within 0xF1 0xF3 b then continuation (b.toNat % 8) 0x80 0xBF 2 rest
  else if b = 0xF4 then continuation (b.toNat % 8) 0x80 0x8F 2 rest
  else (replacement, rest)

/-- Decode a whole byte string; every call consumes a byte, so its length is fuel
enough. -/
def decode : Nat → Bytes → List Char
  | _, [] => []
  | 0, _ => []
  | fuel + 1, b :: rest =>
      let r := nextChar b rest
      r.1 :: decode fuel r.2

end Utf8

/-- `String::from_utf8_lossy`. -/
def fromUtf8Lossy (bs : Bytes) : String := String.ofList (Utf8.decode bs.length bs)

/-! ## Decimal text -/

/-- A number is written in decimal digits. -/
theorem isDigit_of_mem_natRepr {n : ℕ} {c : Char} (h : c ∈ n.repr.toList) : c.isDigit = true :=
  Nat.isDigit_of_mem_toDigits (b := 10) (n := n) (by decide) (by decide) (by
    simpa [Nat.repr_eq_ofList_toDigits] using h)

/-- A number is determined by its decimal text. -/
theorem natRepr_inj {m n : ℕ} (h : m.repr = n.repr) : m = n := by
  have hval := congrArg (fun s : String ↦ Nat.ofDigitChars 10 s.toList 0) h
  simpa [Nat.repr_eq_ofList_toDigits, Nat.ofDigitChars_toDigits] using hval

/-- A number is not written like a negative one. -/
theorem natRepr_ne_neg (m n : ℕ) : m.repr ≠ "-" ++ n.repr := by
  intro h
  have hminus : '-' ∈ m.repr.toList := by
    rw [h]
    simp
  cases isDigit_of_mem_natRepr hminus

/-- An integer is determined by its decimal text. -/
theorem intToString_inj {a b : ℤ} (h : toString a = toString b) : a = b := by
  cases a with
  | ofNat m =>
      cases b with
      | ofNat n => exact congrArg Int.ofNat (natRepr_inj h)
      | negSucc n => exact absurd h (natRepr_ne_neg m (n + 1))
  | negSucc m =>
      cases b with
      | ofNat n => exact absurd h.symm (natRepr_ne_neg n (m + 1))
      | negSucc n =>
          have htail : (m + 1).repr = (n + 1).repr := by
            have hlist := congrArg String.toList
              (show "-" ++ (m + 1).repr = "-" ++ (n + 1).repr from h)
            exact String.toList_inj.mp (by simpa using hlist)
          exact congrArg Int.negSucc (Nat.succ_injective (natRepr_inj htail))

/-- The number a nonempty list of decimal digits denotes. -/
def parseDigits : List Char → Option Nat
  | [] => none
  | ds => if ds.all Char.isDigit
      then some (ds.foldl (fun n d ↦ 10 * n + (d.toNat - '0'.toNat)) 0)
      else none

/-- `str::parse::<i64>`: an optional sign, then decimal digits, in range. -/
def parseI64 (s : String) : Option I64 :=
  match s.toList with
  | '-' :: ds => (parseDigits ds).bind fun n ↦ Sat.ofInt? (-(n : Int))
  | '+' :: ds => (parseDigits ds).bind fun n ↦ Sat.ofInt? (n : Int)
  | ds => (parseDigits ds).bind fun n ↦ Sat.ofInt? (n : Int)

example : fromUtf8Lossy [104, 105, 0xFF, 0xFE] = "hi��" := by decide
example : fromUtf8Lossy [0xE2, 0x82, 0xAC, 0xE2, 0x82, 65] = "€�A" := by decide
example : (parseI64 "+01").map Sat.val = some 1 := by decide
example : parseI64 "9223372036854775808" = none := by decide

end GrpcPhp.Lib
