import Sipmon.Source.Evlog.Reader

/-!
# The buffers of the payload decoder (`src/store/evlog.rs:510-533,645-869`)

The three helpers that read text or bytes take a buffer of the announced length
before they read. `decode_payload` is walked field by field; a walk records
every request together with the bytes that were left when it was made.
-/
namespace Sipmon.Source.Evlog
open Lib.ByteReader (Bytes Reader ReadError readByte readExact)

/-- A payload: Rust holds no slice longer than `isize::MAX`. -/
abbrev Slice := { bytes : Bytes // bytes.length < 2 ^ 63 }

inductive Ending where
  | done (rest : Bytes)
  | failed (e : ReadError)
  /-- `capacity overflow`. -/
  | panicked
  deriving DecidableEq

structure Request where
  len : Nat
  remaining : Nat
  deriving DecidableEq

structure Walk where
  requests : List Request
  ending : Ending
  deriving DecidableEq

/-- How a plain reader ends. -/
def endingOf {α : Type} : Except ReadError (α × Bytes) → Ending
  | .ok (_, rest) => .done rest
  | .error e => .failed e

/-- A walk without requests. -/
def Walk.quiet (ending : Ending) : Walk := { requests := [], ending }

def Walk.andThen (walk : Walk) (next : Bytes → Walk) : Walk :=
  match walk.ending with
  | .done rest =>
    let later := next rest
    { requests := walk.requests ++ later.requests, ending := later.ending }
  | _ => walk

/-- `vec![0u8; len]`, which panics from `isize::MAX + 1` on, then `read_exact`. -/
def fillBuffer (len : Nat) (bytes : Bytes) : Walk :=
  { requests := [{ len, remaining := bytes.length }]
    ending := if 2 ^ 63 ≤ len then .panicked else endingOf (readExact len bytes) }

/-- `read_string` and `read_bytes`. -/
def walkString (bytes : Bytes) : Walk :=
  match readVarint bytes with
  | .ok (len, rest) => fillBuffer len.toNat rest
  | .error e => .quiet (.failed e)

/-- `read_opt_string`. -/
def walkOptString (bytes : Bytes) : Walk :=
  match readVarint bytes with
  | .ok (len, rest) => if len = 0 then .quiet (.done rest) else fillBuffer (len - 1).toNat rest
  | .error e => .quiet (.failed e)

/-- One field of a layout, its value dropped. -/
inductive Field where
  /-- A field that needs no buffer. -/
  | plain (read : Reader Unit)
  | string
  | optString
  | bytes

def Field.of {α : Type} (read : Reader α) : Field := .plain (discard read)

def Field.skip : Field → Reader Unit
  | .plain read => read
  | .string => discard readString
  | .optString => discard readOptString
  | .bytes => discard readBytes

def Field.walk (field : Field) (bytes : Bytes) : Walk :=
  match field with
  | .plain read => .quiet (endingOf (read bytes))
  | .string | .bytes => walkString bytes
  | .optString => walkOptString bytes

/-- The fields of a payload; `tail` only while bytes are left. -/
structure Layout where
  fields : List Field
  tail : List Field := []

def skipAll : List Field → Reader Unit
  | [] => pure ()
  | field :: rest => do
    field.skip
    skipAll rest

def walkAll : List Field → Bytes → Walk
  | [], bytes => .quiet (.done bytes)
  | field :: fields, bytes => (field.walk bytes).andThen (walkAll fields)

def Layout.skip (layout : Layout) : Reader Unit := do
  skipAll layout.fields
  fun bytes => if bytes.isEmpty then .ok ((), bytes) else skipAll layout.tail bytes

def Layout.walk (layout : Layout) (bytes : Bytes) : Walk :=
  (walkAll layout.fields bytes).andThen fun rest =>
    if rest.isEmpty then .quiet (.done rest) else walkAll layout.tail rest

def sipMsgLayout : Layout where
  fields := [.of readFlow, .of readBool, .optString, .of readOptU16, .string, .of readOptU32, .optString,
    .optString, .optString, .bytes]

def txnLayout : Layout where
  fields := [.string, .string, .string, .of readOptU16, .of readOptU32]

def callLayout : Layout where
  fields := [.string, .of readByte, .optString, .optString, .optString, .optString, .of readByte,
    .of readByte, .of readOptU64, .of readOptU64, .of readOptU64, .of readOptU64, .of readOptU64,
    .of readOptU64, .of readOptU32, .of readOptU32, .of readOptU32, .optString, .of readVarint,
    .of readVarint, .of readVarint, .of readVarint]

def streamSnapLayout : Layout where
  fields := [.string, .of readU32, .of readFlow, .optString, .of readOptU8, .of readVarint, .of readVarint,
    .of readVarint, .of readF64, .of readOptF64, .of readOptF64, .optString]
  tail := [.of readVarint, .of readOptU64, .of readOptU64, .of readOptF64, .of readOptF64, .of readOptF64,
    .of readOptF64, .optString, .of readBool]

def rtcpRttLayout : Layout where
  fields := [.string, .of readU32, .of readF64, .of readOptF64]

def healthBucketLayout : Layout where
  fields := [.of readVarint, .string, .of readMetricSet]

def errorLayout : Layout where
  fields := [.string, .string]

def diagLayout : Layout where
  fields := [.string, .of readByte, .string, .string]

/-- The arms of `decode_payload`; an unknown type reads nothing. -/
def layoutOf (ty : UInt8) : Layout :=
  match ty.toNat with
  | 1 => sipMsgLayout
  | 2 => txnLayout
  | 3 => callLayout
  | 4 => streamSnapLayout
  | 5 => rtcpRttLayout
  | 6 => healthBucketLayout
  | 7 => errorLayout
  | 8 => diagLayout
  | _ => { fields := [] }

end Sipmon.Source.Evlog
