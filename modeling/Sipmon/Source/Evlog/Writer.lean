import Sipmon.Source.Evlog.Event

/-!
# Event-log writer (`src/store/evlog.rs:178-506`)

Each `write_*` helper returns the bytes it pushes onto the buffer. The writer
keeps the bytes handed to the file, the timestamp of the last event and the
record byte count; a session starts with the header `EvlogWriter::new` writes.
-/
namespace Sipmon.Source.Evlog
open Lib.BigEndian (toBytes)
open Lib.ByteReader (Bytes)

/-! ## Field encoders -/

def writeVarint (n : UInt64) : Bytes :=
  let b := (n &&& 0x7f).toUInt8
  if n >>> 7 = 0 then [b] else (b ||| 0x80) :: writeVarint (n >>> 7)
termination_by n.toNat
decreasing_by
  rename_i more
  have left : (n >>> 7).toNat ≠ 0 := fun zero => more (UInt64.toNat_inj.mp zero)
  have shifted : (n >>> 7).toNat = n.toNat / 128 := by
    simp [UInt64.toNat_shiftRight, Nat.shiftRight_eq_div_pow]
  omega

def stringBytes (s : String) : Bytes := s.toByteArray.data.toList

/-- `s.len() as u64`. -/
def lenU64 (bs : Bytes) : UInt64 := UInt64.ofNat bs.length

def writeString (s : String) : Bytes := writeVarint (lenU64 (stringBytes s)) ++ stringBytes s

/-- The length is stored plus one, so that zero encodes `None`. -/
def writeOptString : Option String → Bytes
  | some s => writeVarint (lenU64 (stringBytes s) + 1) ++ stringBytes s
  | none => writeVarint 0

def writeBytes (b : Bytes) : Bytes := writeVarint (lenU64 b) ++ b

def writeOpt {α : Type} (write : α → Bytes) : Option α → Bytes
  | some x => 1 :: write x
  | none => [0]

def writeOptU32 (v : Option UInt32) : Bytes := writeOpt (fun x => writeVarint x.toUInt64) v
def writeOptU64 (v : Option UInt64) : Bytes := writeOpt writeVarint v
def writeOptU16 (v : Option UInt16) : Bytes := writeOpt (fun x => toBytes 2 x.toNat) v
def writeOptU8 (v : Option UInt8) : Bytes := writeOpt (fun x => [x]) v
def writeF64 (v : F64) : Bytes := toBytes 8 v.bits.toNat
def writeOptF64 (v : Option F64) : Bytes := writeOpt writeF64 v
def writeU32 (v : UInt32) : Bytes := toBytes 4 v.toNat
def writeBool (b : Bool) : Bytes := [if b then 1 else 0]

def writeSockaddr (sa : SocketAddr) : Bytes :=
  (match sa.ip with
    | .v4 ip => 4 :: ip.octets
    | .v6 ip => 6 :: ip.octets.toList) ++ toBytes 2 sa.port.toNat

def protoByte : Proto → UInt8
  | .udp => 0
  | .tcp => 1

def writeFlow (flow : Flow5Tuple) : Bytes :=
  [protoByte flow.proto] ++ writeSockaddr flow.src ++ writeSockaddr flow.dst

def writeMetricSet (m : MetricSet) : Bytes :=
  writeVarint m.calls ++ writeVarint m.answered ++ writeVarint m.failed ++ writeF64 m.pddSumMs ++
    writeVarint m.pddN ++ writeF64 m.jitterSumMs ++ writeVarint m.jitterN ++
    writeF64 m.lossSumPct ++ writeVarint m.lossN ++ writeF64 m.rttSumMs ++ writeVarint m.rttN ++
    writeF64 m.mosSum ++ writeVarint m.mosN

/-! ## Payloads -/

def encodeSipMsg (e : SipMsgEvt) : Bytes :=
  writeFlow e.flow ++ writeBool e.isRequest ++ writeOptString e.method ++ writeOptU16 e.status ++
    writeString e.callId ++ writeOptU32 e.cseq ++ writeOptString e.branch ++
    writeOptString e.fromTag ++ writeOptString e.toTag ++ writeBytes e.raw

def encodeTxn (e : TxnEvt) : Bytes :=
  writeString e.callId ++ writeString e.branch ++ writeString e.method ++
    writeOptU16 e.responseCode ++ writeOptU32 e.delayMs

def encodeCall (e : CallEvt) : Bytes :=
  writeString e.callId ++ [e.kind.toByte] ++ writeOptString e.fromUser ++
    writeOptString e.toUser ++ writeOptString e.fromUri ++ writeOptString e.toUri ++ [e.state] ++
    [e.outcome] ++ writeOptU64 e.inviteTs ++ writeOptU64 e.tryingTs ++ writeOptU64 e.ringingTs ++
    writeOptU64 e.answerTs ++ writeOptU64 e.byeTs ++ writeOptU64 e.endTs ++ writeOptU32 e.pddMs ++
    writeOptU32 e.setupMs ++ writeOptU32 e.hangupCode ++ writeOptString e.hangupReason ++
    writeVarint e.pktsSip ++ writeVarint e.pktsRtp ++ writeVarint e.pktsRtcp ++ writeVarint e.bytes

/-- The fields from `bytes` on are the v1.1 tail. -/
def encodeStreamSnap (e : StreamSnapEvt) : Bytes :=
  writeString e.callId ++ writeU32 e.ssrc ++ writeFlow e.flow ++ writeOptString e.codec ++
    writeOptU8 e.payloadType ++ writeVarint e.packets ++ writeVarint e.lost ++
    writeVarint e.expected ++ writeF64 e.lossPct ++ writeOptF64 e.jitterMs ++ writeOptF64 e.mos ++
    writeOptString e.direction ++ writeVarint e.bytes ++ writeOptU64 e.firstTsUs ++
    writeOptU64 e.lastTsUs ++ writeOptF64 e.rttMinMs ++ writeOptF64 e.rttAvgMs ++
    writeOptF64 e.rttMaxMs ++ writeOptF64 e.onewayMs ++ writeOptString e.leg ++ writeBool e.viaTurn

def encodeRtcpRtt (e : RtcpRttEvt) : Bytes :=
  writeString e.callId ++ writeU32 e.ssrc ++ writeF64 e.rttMs ++ writeOptF64 e.onewayMs

def encodeHealthBucket (e : HealthBucket) : Bytes :=
  writeVarint e.bucketUs ++ writeString e.dimKey ++ writeMetricSet e.metrics

def encodeError (e : ErrorEvt) : Bytes := writeString e.kind ++ writeString e.msg

def encodeDiag (e : DiagEvt) : Bytes :=
  writeString e.callId ++ [e.severity] ++ writeString e.code ++ writeString e.message

/-- `encode_event_payload`: the filled buffer and the record type. -/
def encodeEventPayload : Event → Bytes × EvType
  | .sipMsg e => (encodeSipMsg e, .sipMsg)
  | .txn e => (encodeTxn e, .txn)
  | .call e => (encodeCall e, .call)
  | .streamSnap e => (encodeStreamSnap e, .streamSnap)
  | .rtcpRtt e => (encodeRtcpRtt e, .rtcpRtt)
  | .healthBucket e => (encodeHealthBucket e, .healthBucket)
  | .error e => (encodeError e, .error)
  | .diag e => (encodeDiag e, .diag)

def payloadOf (ev : Event) : Bytes := (encodeEventPayload ev).1

/-! ## Records and sessions -/

structure EvlogWriter where
  /-- Bytes handed to the underlying file by this session. -/
  out : Bytes
  lastTs : UInt64
  bytesWritten : UInt64
  deriving DecidableEq

/-- The file header; `tz` is `local_minus_utc` of the recording host. -/
def header (tz : Int32) : Bytes :=
  magic ++ toBytes 2 version.toNat ++ toBytes 2 0 ++ toBytes 4 tz.toUInt32.toNat

/-- `EvlogWriter::new`. -/
def EvlogWriter.new (tz : Int32) : EvlogWriter :=
  { out := header tz, lastTs := 0, bytesWritten := 0 }

/-- The framed record `EvlogWriter::write` hands to the file when the last
written event was stamped `lastTs`. -/
def record (lastTs : UInt64) (ev : Event) : Bytes :=
  let (payload, ty) := encodeEventPayload ev
  writeVarint (satSub ev.tsUs lastTs) ++ [ty.toByte] ++ writeVarint (lenU64 payload) ++ payload

def EvlogWriter.write (w : EvlogWriter) (ev : Event) : EvlogWriter :=
  let rec_ := record w.lastTs ev
  { out := w.out ++ rec_, lastTs := ev.tsUs, bytesWritten := w.bytesWritten + lenU64 rec_ }

/-- The bytes one writer session appends to the file. -/
def sessionImage (tz : Int32) (events : List Event) : Bytes :=
  (events.foldl EvlogWriter.write (EvlogWriter.new tz)).out

/-- `EvlogWriter::create` opens for appending, so a session extends the file
that was already there. -/
def appendSession (file : Bytes) (tz : Int32) (events : List Event) : Bytes :=
  file ++ sessionImage tz events

/-- The records of a session, after a last event stamped `lastTs`. -/
def records : UInt64 → List Event → Bytes
  | _, [] => []
  | lastTs, ev :: rest => record lastTs ev ++ records ev.tsUs rest

theorem foldl_write_out (events : List Event) (w : EvlogWriter) :
    (events.foldl EvlogWriter.write w).out = w.out ++ records w.lastTs events := by
  induction events generalizing w with
  | nil => simp [records]
  | cons ev rest ih =>
    rw [List.foldl_cons, ih]
    simp [EvlogWriter.write, records, List.append_assoc]

theorem sessionImage_eq (tz : Int32) (events : List Event) :
    sessionImage tz events = header tz ++ records 0 events :=
  foldl_write_out events (EvlogWriter.new tz)

@[simp] theorem header_length (tz : Int32) : (header tz).length = 12 := by
  simp [header, magic]

end Sipmon.Source.Evlog
