import Sipmon.Source.Evlog.Reader
import Sipmon.Source.RtpStream

/-!
# Skipping decoders (`src/store/evlog.rs:916-1240`)

The second set of payload decoders, used where a full event is not needed. Each
works on a slice and every failure is "truncated ...": only that it failed is
looked at.
-/
namespace Sipmon.Source.Evlog
open Lib.ByteReader (Bytes Reader readByte readExact)
open Lib.BigEndian (ofBytes)
open Text (fromUtf8 fromUtf8Lossy)

/-- The loop of `slice_varint`, of at most ten rounds. -/
def sliceVarintFrom : Nat → UInt64 → Nat → Reader UInt64
  | 0, _, _ => throw .unexpectedEof
  | rounds + 1, result, shift => do
    let b ← readByte
    let result := result ||| ((b &&& 0x7f).toUInt64 <<< UInt64.ofNat shift)
    if b &&& 0x80 = 0 then return result
    else if 64 ≤ shift + 7 then throw .unexpectedEof
    else sliceVarintFrom rounds result (shift + 7)

def sliceVarint : Reader UInt64 := sliceVarintFrom 10 0 0

/-- `need`: the next `n` bytes. -/
def need (n : Nat) : Reader Bytes := readExact n

/-- Text that is not UTF-8 reads as the empty string. -/
def sliceStr : Reader String := do
  let len ← sliceVarint
  let head ← need len.toNat
  return (fromUtf8 head).getD ""

/-- `len.saturating_sub(1)` bytes follow a length that is not zero. -/
def skipOptString : Reader Unit := do
  let len ← sliceVarint
  if len = 0 then return ()
  else
    let _ ← need (len.toNat - 1)
    return ()

def sliceOptOwnedString : Reader (Option String) := do
  let len ← sliceVarint
  if len = 0 then return none
  else
    let head ← need (len.toNat - 1)
    return some (fromUtf8Lossy head)

def skipOptTagged (body : Nat) : Reader Unit := do
  let flag ← readByte
  if flag = 0 then return ()
  else
    let _ ← need body
    return ()

def skipOptVarint : Reader Unit := do
  let flag ← readByte
  if flag = 0 then return ()
  else
    let _ ← sliceVarint
    return ()

/-- The flag byte of an optional field of the slice readers. -/
def sliceOpt {α : Type} (slice : Reader α) : Reader (Option α) := do
  let flag ← readByte
  if flag = 0 then return none
  else
    let value ← slice
    return some value

def sliceF64 : Reader F64 := do
  let b ← need 8
  return ⟨UInt64.ofNat (ofBytes b)⟩

def sliceOptF64 : Reader (Option F64) := sliceOpt sliceF64
def sliceOptU8 : Reader (Option UInt8) := sliceOpt readByte
def sliceU64Field : Reader UInt64 := sliceVarint
def sliceOptU64 : Reader (Option UInt64) := sliceOpt sliceU64Field

def sliceU32 : Reader UInt32 := do
  let b ← need 4
  return UInt32.ofNat (ofBytes b)

def sliceIp (tag : UInt8) : Reader IpAddr :=
  if tag = 4 then do
    let b ← need 4
    return .v4 (Ipv4Addr.ofOctets b)
  else do
    let b ← need 16
    return .v6 (Ipv6Addr.ofOctets b)

def sliceSockaddr : Reader SocketAddr := do
  let tag ← readByte
  let ip ← sliceIp tag
  let p ← need 2
  return { ip := ip, port := UInt16.ofNat (ofBytes p) }

def sliceFlow : Reader Flow5Tuple := do
  let pb ← readByte
  let src ← sliceSockaddr
  let dst ← sliceSockaddr
  return { proto := if pb = 1 then .tcp else .udp, src := src, dst := dst }

/-- Whether the slice is used up. -/
def sliceDone : Reader Bool := fun rd => .ok (rd.isEmpty, rd)

/-- The fields of a StreamSnap the statistics need. -/
structure StreamSnapLite where
  callId : String
  ssrc : UInt32
  /-- `none` for summaries that predate 5-tuple logging. -/
  flow : Option Flow5Tuple
  packets : UInt64
  lost : UInt64
  bytes : UInt64
  jitterMs : Option F64
  mos : Option F64
  rttAvgMs : Option F64

def parseStreamSnapLiteFrom : Reader StreamSnapLite := do
  let callId ← sliceStr
  let ssrc ← sliceU32
  let flow ← sliceFlow
  skipOptString -- codec
  skipOptTagged 1 -- payload_type
  let packets ← sliceU64Field
  let lost ← sliceU64Field
  let _expected ← sliceU64Field
  let _lossPct ← need 8
  let jitterMs ← sliceOptF64
  let mos ← sliceOptF64
  skipOptString -- direction
  let old ← sliceDone
  if old then
    return { callId, ssrc, flow := some flow, packets, lost, bytes := 0, jitterMs, mos
             rttAvgMs := none }
  else
    let bytes ← sliceU64Field
    skipOptVarint -- first_ts_us
    skipOptVarint -- last_ts_us
    skipOptTagged 8 -- rtt_min_ms
    let rttAvgMs ← sliceOptF64
    return { callId, ssrc, flow := some flow, packets, lost, bytes, jitterMs, mos, rttAvgMs }

/-- `parse_stream_snap_lite`. -/
def parseStreamSnapLite (payload : Bytes) : Option StreamSnapLite :=
  match parseStreamSnapLiteFrom payload with
  | .ok (lite, _) => some lite
  | .error _ => none

/-- The fields after `direction`, those of an older log missing. -/
def sliceSnapTail : Reader SnapTail := do
  let old ← sliceDone
  if old then return {}
  else
    let bytes ← sliceU64Field
    let firstTsUs ← sliceOptU64
    let lastTsUs ← sliceOptU64
    let rttMinMs ← sliceOptF64
    let rttAvgMs ← sliceOptF64
    let rttMaxMs ← sliceOptF64
    let onewayMs ← sliceOptF64
    let noLeg ← sliceDone
    let leg ← if noLeg then pure none else sliceOptOwnedString
    let noTurn ← sliceDone
    let viaTurn ← if noTurn then pure false else (fun b => decide (b ≠ 0)) <$> readByte
    return { bytes, firstTsUs, lastTsUs, rttMinMs, rttAvgMs, rttMaxMs, onewayMs, leg, viaTurn }

def parseStreamSummaryFrom : Reader StreamSummary := do
  let callId ← sliceStr
  let ssrc ← sliceU32
  let flow ← sliceFlow
  let codec ← sliceOptOwnedString
  let payloadType ← sliceOptU8
  let packets ← sliceU64Field
  let lost ← sliceU64Field
  let expected ← sliceU64Field
  let lossPct ← sliceF64
  let jitterMs ← sliceOptF64
  let mos ← sliceOptF64
  let direction ← sliceOptOwnedString
  let tail ← sliceSnapTail
  return { callId := some callId, ssrc, flow := some flow, codec, payloadType
           packets := packets.toNat, lost := lost.toNat, expected := expected.toNat, lossPct
           jitterMs, firstTsUs := tail.firstTsUs, lastTsUs := tail.lastTsUs
           rttMinMs := tail.rttMinMs, rttAvgMs := tail.rttAvgMs, rttMaxMs := tail.rttMaxMs
           onewayMs := tail.onewayMs, mos, direction, leg := tail.leg, viaTurn := tail.viaTurn
           bytes := tail.bytes.toNat, history := [] }

/-- `parse_stream_summary`. -/
def parseStreamSummary (payload : Bytes) : Option StreamSummary :=
  match parseStreamSummaryFrom payload with
  | .ok (s, _) => some s
  | .error _ => none

/-- `parse_rtcp_rtt_ms`: the SSRC is passed over. -/
def parseRtcpRttMsFrom : Reader F64 := do
  let _callId ← sliceStr
  let b ← need (4 + 8)
  return ⟨UInt64.ofNat (ofBytes ((b.drop 4)))⟩

def parseRtcpRttMs (payload : Bytes) : Option F64 :=
  match parseRtcpRttMsFrom payload with
  | .ok (rtt, _) => some rtt
  | .error _ => none

end Sipmon.Source.Evlog
