import GrpcPhp.Lib.Multimap
import GrpcPhp.Lib.Text

/-!
# The transport library

What the extension uses of tonic: status codes, statuses, metadata maps, requests,
and a handful of conversions whose code is not part of this repository.  The
conversions are the fields of `Tonic`; every definition that needs one takes the
library as a parameter, so that no result depends on more than the hypotheses it
names.
-/

namespace GrpcPhp

open Lib

/-- `tonic::Code`. -/
inductive Code where
  | ok
  | cancelled
  | unknown
  | invalidArgument
  | deadlineExceeded
  | notFound
  | alreadyExists
  | permissionDenied
  | resourceExhausted
  | failedPrecondition
  | aborted
  | outOfRange
  | unimplemented
  | internal
  | unavailable
  | dataLoss
  | unauthenticated
deriving DecidableEq, Repr

/-- `Code as i32`. -/
def Code.toInt : Code → Int
  | .ok => 0
  | .cancelled => 1
  | .unknown => 2
  | .invalidArgument => 3
  | .deadlineExceeded => 4
  | .notFound => 5
  | .alreadyExists => 6
  | .permissionDenied => 7
  | .resourceExhausted => 8
  | .failedPrecondition => 9
  | .aborted => 10
  | .outOfRange => 11
  | .unimplemented => 12
  | .internal => 13
  | .unavailable => 14
  | .dataLoss => 15
  | .unauthenticated => 16

/-- Only `ok` has number 0. -/
@[simp] theorem Code.toInt_eq_zero {c : Code} : c.toInt = 0 ↔ c = .ok := by
  cases c <;> decide

/-- `tonic::metadata::MetadataMap`: header names with wire-form values, in iteration
order. -/
abbrev MetadataMap := Multimap String Bytes

/-- `tonic::Status`. -/
structure Status where
  code : Code
  message : String
  details : Bytes
  metadata : MetadataMap
deriving DecidableEq, Repr

/-- `tonic::Request<T>`: a body, the request metadata and the `grpc-timeout` in
microseconds. -/
structure Request (β : Type) where
  message : β
  metadata : MetadataMap
  timeout : Option Nat
deriving DecidableEq, Repr

/-- The functions of tonic and http that the extension calls and whose code lies
outside the repository. -/
structure Tonic where
  /-- `PathAndQuery::try_from(method)`; the error is its display text. -/
  path : String → Except String Unit
  /-- `MetadataKey::<Ascii>::from_bytes`: the header name of an ASCII key. -/
  asciiKey : String → Option String
  /-- `str::parse::<MetadataValue<Ascii>>`. -/
  asciiValue : String → Option Bytes
  /-- Whether `MetadataMap::iter` yields entries of this key as binary ones. -/
  binaryKey : String → Bool
  /-- `MetadataValue::<Ascii>::to_str`, as bytes. -/
  toStr : Bytes → Option Bytes
  /-- `MetadataValue::<Binary>::to_bytes`: the payload of a wire-form value. -/
  toBytes : Bytes → Option Bytes
  /-- `MetadataValue::<Binary>::from_bytes`: the wire form of a payload. -/
  fromBytes : Bytes → Bytes

/-- The library on plain ASCII input: paths start with a slash, names and values are
visible ASCII, and nothing is binary. -/
def Tonic.ascii : Tonic where
  path method := if method.toList.head? = some '/' then .ok () else .error "invalid format"
  asciiKey key := if key.toList.all fun c ↦ '!' ≤ c && c ≤ '~' then some key else none
  asciiValue value := if value.toList.all fun c ↦ ' ' ≤ c && c ≤ '~' then
      some (value.toList.map fun c ↦ UInt8.ofNat c.toNat)
    else none
  binaryKey _ := false
  toStr bs := if bs.all fun b ↦ 32 ≤ b && b < 127 then some bs else none
  toBytes := some
  fromBytes bs := bs

/-- The library with binary keys: those that end in `-bin`, with a wire form that marks the
payload. -/
def Tonic.binary : Tonic where
  path := Tonic.ascii.path
  asciiKey := Tonic.ascii.asciiKey
  asciiValue := Tonic.ascii.asciiValue
  binaryKey key := "-bin".toList.isSuffixOf key.toList
  toStr := Tonic.ascii.toStr
  toBytes
    | 66 :: bytes => some bytes
    | _ => none
  fromBytes bytes := 66 :: bytes

end GrpcPhp
