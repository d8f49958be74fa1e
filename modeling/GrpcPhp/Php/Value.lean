import GrpcPhp.Lib.Text

/-!
# PHP values as the extension sees them

The extension reads PHP arrays through `ZendHashTable::iter`, which yields a key of
one of four shapes and a dynamically typed value.  A hash table is the list of its
entries in iteration order; nothing in the extension depends on more than that.

Accessors are named after the ones of the binding library: each returns a value
only when the `Zval` has exactly that type.
-/

namespace GrpcPhp.Php

open Lib

/-- A key of a PHP array, in the representations the binding library hands out. -/
inductive ArrayKey where
  /-- An integer key. -/
  | long (n : I64)
  /-- An owned string key. -/
  | string (s : String)
  /-- A borrowed string key. -/
  | str (s : String)
  /-- A string key still held by the engine: arbitrary bytes. -/
  | zendString (bytes : Bytes)
deriving DecidableEq, Repr

/-- A PHP value. -/
inductive Zval where
  | null
  | bool (b : Bool)
  | long (n : I64)
  | double (d : Float)
  | string (bytes : Bytes)
  | array (entries : List (ArrayKey × Zval))
  | /-- An object of the class `Grpc\ChannelCredentials`, by its handle. -/
    channelCredentials (handle : ℕ)
  | /-- Any other object. -/
    object

/-- A PHP array, as its entries in iteration order. -/
abbrev ZendHashTable := List (ArrayKey × Zval)

namespace Zval

/-- The entries of an array value. -/
def array? : Zval → Option ZendHashTable
  | .array entries => some entries
  | _ => none

/-- The value of a boolean. -/
def bool? : Zval → Option Bool
  | .bool b => some b
  | _ => none

/-- The value of an integer. -/
def long? : Zval → Option I64
  | .long n => some n
  | _ => none

/-- The value of a float. -/
def double? : Zval → Option Float
  | .double d => some d
  | _ => none

/-- The raw bytes of a string value. -/
def zendStr? : Zval → Option Bytes
  | .string bytes => some bytes
  | _ => none

/-- The text of a string value; a string that is not UTF-8 has none. -/
def string? (z : Zval) : Option String := z.zendStr?.bind fromUtf8

variable {z : Zval}

/-- Only an array has entries. -/
theorem array?_eq_some_iff {entries : ZendHashTable} :
    z.array? = some entries ↔ z = .array entries := by
  cases z <;> simp [array?]

/-- Only a string has bytes. -/
theorem zendStr?_eq_some_iff {bytes : Bytes} : z.zendStr? = some bytes ↔ z = .string bytes := by
  cases z <;> simp [zendStr?]

end Zval

/-- The bytes of a string key. -/
def ArrayKey.bytes? : ArrayKey → Option Bytes
  | .long _ => none
  | .string s | .str s => some (toUtf8 s)
  | .zendString bytes => some bytes

/-- A PHP array as PHP builds it: no string key occurs twice. -/
structure PhpArray where
  entries : ZendHashTable
  nodup : (entries.filterMap fun e ↦ e.1.bytes?).Nodup

/-- Whether a key of an array is the given string. -/
def ArrayKey.isStr (name : String) : ArrayKey → Bool
  | .long _ => false
  | .string s | .str s => s == name
  | .zendString bytes => fromUtf8 bytes == some name

/-- Look a string key up. -/
def ZendHashTable.get? (ht : ZendHashTable) (name : String) : Option Zval :=
  (ht.find? fun e ↦ e.1.isStr name).map Prod.snd

/-- `array_key_to_string`: the text of a string key. -/
def arrayKeyToString : ArrayKey → Option String
  | .string s | .str s => some s
  | .zendString bytes => fromUtf8 bytes
  | .long _ => none

end GrpcPhp.Php
