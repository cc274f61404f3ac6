import Sipmon.Lib.ByteReader
import Sipmon.Source.Evlog.Event
import Sipmon.Source.Text

/-!
# Event-log reader (`src/store/evlog.rs:510-869,1258-1338`)

The `read_*` helpers and `decode_payload` are readers over the payload slice.
`EvlogReader` keeps the unread file, the running clock and the time-zone offset.
-/
namespace Sipmon.Source.Evlog
open Lib.ByteReader (Bytes Reader ReadError readByte readExact)
open Lib.BigEndian (ofBytes)
open Text (fromUtf8Lossy)

/-! ## Field decoders -/

/-- The loop of `read_varint`: `shift` grows by seven until it reaches 64. -/
def readVarintFrom (result : UInt64) (shift : Nat) : Reader UInt64 := do
  let b ← readByte
  let result := result ||| ((b &&& 0x7f).toUInt64 <<< UInt64.ofNat shift)
  if b &&& 0x80 = 0 then return result
  else if 64 ≤ shift + 7 then throw .invalidData
  else readVarintFrom result (shift + 7)
termination_by 64 - shift

def readVarint : Reader UInt64 := readVarintFrom 0 0

def readString : Reader String := do
  let len ← readVarint
  let buf ← readExact len.toNat
  return fromUtf8Lossy buf

def readOptString : Reader (Option String) := do
  let len ← readVarint
  if len = 0 then return none
  else
    let buf ← readExact (len - 1).toNat
    return some (fromUtf8Lossy buf)

def readBytes : Reader Bytes := do
  let len ← readVarint
  readExact len.toNat

/-- The flag byte of an optional field: zero is `None`. -/
def readOpt {α : Type} (read : Reader α) : Reader (Option α) := do
  let flag ← readByte
  if flag = 0 then return none
  else
    let value ← read
    return some value

/-- `read_varint(r)? as u32`. -/
def readOptU32 : Reader (Option UInt32) := readOpt do
  let n ← readVarint
  return n.toUInt32

def readOptU64 : Reader (Option UInt64) := readOpt readVarint

def readU16 : Reader UInt16 := do
  let b ← readExact 2
  return UInt16.ofNat (ofBytes b)

def readU32 : Reader UInt32 := do
  let b ← readExact 4
  return UInt32.ofNat (ofBytes b)

def readF64 : Reader F64 := do
  let b ← readExact 8
  return ⟨UInt64.ofNat (ofBytes b)⟩

def readOptU16 : Reader (Option UInt16) := readOpt readU16
def readOptU8 : Reader (Option UInt8) := readOpt readByte
def readOptF64 : Reader (Option F64) := readOpt readF64

/-- A flag byte read as `b != 0`. -/
def readBool : Reader Bool := do
  let b ← readByte
  return decide (b ≠ 0)

/-- The address behind a `read_sockaddr` tag: every tag but 4 means IPv6. -/
def readIp (tag : UInt8) : Reader IpAddr :=
  if tag = 4 then do
    let b ← readExact 4
    return .v4 (Ipv4Addr.ofOctets b)
  else do
    let b ← readExact 16
    return .v6 (Ipv6Addr.ofOctets b)

def readSockaddr : Reader SocketAddr := do
  let tag ← readByte
  let ip ← readIp tag
  let port ← readU16
  return { ip := ip, port := port }

def readFlow : Reader Flow5Tuple := do
  let pb ← readByte
  let src ← readSockaddr
  let dst ← readSockaddr
  return { proto := if pb = 1 then .tcp else .udp, src := src, dst := dst }

def readMetricSet : Reader MetricSet := do
  let calls ← readVarint
  let answered ← readVarint
  let failed ← readVarint
  let pddSumMs ← readF64
  let pddN ← readVarint
  let jitterSumMs ← readF64
  let jitterN ← readVarint
  let lossSumPct ← readF64
  let lossN ← readVarint
  let rttSumMs ← readF64
  let rttN ← readVarint
  let mosSum ← readF64
  let mosN ← readVarint
  return { calls, answered, failed, pddSumMs, pddN, jitterSumMs, jitterN, lossSumPct, lossN,
           rttSumMs, rttN, mosSum, mosN }

/-! ## Payloads -/

def decodeSipMsg (tsUs : UInt64) : Reader SipMsgEvt := do
  let flow ← readFlow
  let isRequest ← readBool
  let method ← readOptString
  let status ← readOptU16
  let callId ← readString
  let cseq ← readOptU32
  let branch ← readOptString
  let fromTag ← readOptString
  let toTag ← readOptString
  let raw ← readBytes
  return { tsUs, flow, isRequest, method, status, callId, cseq, branch, fromTag, toTag, raw }

def callEvtKindOf (kb : UInt8) : CallEvtKind :=
  if kb = 3 then .teardown else if kb = 2 then .update else .setup

def decodeCall (tsUs : UInt64) : Reader CallEvt := do
  let callId ← readString
  let kb ← readByte
  let fromUser ← readOptString
  let toUser ← readOptString
  let fromUri ← readOptString
  let toUri ← readOptString
  let state ← readByte
  let outcome ← readByte
  let inviteTs ← readOptU64
  let tryingTs ← readOptU64
  let ringingTs ← readOptU64
  let answerTs ← readOptU64
  let byeTs ← readOptU64
  let endTs ← readOptU64
  let pddMs ← readOptU32
  let setupMs ← readOptU32
  let hangupCode ← readOptU32
  let hangupReason ← readOptString
  let pktsSip ← readVarint
  let pktsRtp ← readVarint
  let pktsRtcp ← readVarint
  let bytes ← readVarint
  return { tsUs, callId, kind := callEvtKindOf kb, fromUser, toUser, fromUri, toUri, state, outcome,
           inviteTs, tryingTs, ringingTs, answerTs, byeTs, endTs, pddMs, setupMs, hangupCode,
           hangupReason, pktsSip, pktsRtp, pktsRtcp, bytes }

/-- The v1.1 fields appended after `direction`. -/
structure SnapTail where
  bytes : UInt64 := 0
  firstTsUs : Option UInt64 := none
  lastTsUs : Option UInt64 := none
  rttMinMs : Option F64 := none
  rttAvgMs : Option F64 := none
  rttMaxMs : Option F64 := none
  onewayMs : Option F64 := none
  leg : Option String := none
  viaTurn : Bool := false
  deriving DecidableEq

def readSnapFields : Reader SnapTail := do
  let bytes ← readVarint
  let firstTsUs ← readOptU64
  let lastTsUs ← readOptU64
  let rttMinMs ← readOptF64
  let rttAvgMs ← readOptF64
  let rttMaxMs ← readOptF64
  let onewayMs ← readOptF64
  let leg ← readOptString
  let viaTurn ← readBool
  return { bytes, firstTsUs, lastTsUs, rttMinMs, rttAvgMs, rttMaxMs, onewayMs, leg, viaTurn }

/-- Older logs stop before the tail. -/
def readSnapTail : Reader SnapTail := fun rd =>
  if rd.isEmpty then .ok ({}, rd) else readSnapFields rd

def decodeStreamSnap (tsUs : UInt64) : Reader StreamSnapEvt := do
  let callId ← readString
  let ssrc ← readU32
  let flow ← readFlow
  let codec ← readOptString
  let payloadType ← readOptU8
  let packets ← readVarint
  let lost ← readVarint
  let expected ← readVarint
  let lossPct ← readF64
  let jitterMs ← readOptF64
  let mos ← readOptF64
  let direction ← readOptString
  let tail ← readSnapTail
  return { tsUs, callId, ssrc, flow, codec, payloadType, packets, lost, expected, lossPct, jitterMs,
           mos, direction, bytes := tail.bytes, firstTsUs := tail.firstTsUs,
           lastTsUs := tail.lastTsUs, rttMinMs := tail.rttMinMs, rttAvgMs := tail.rttAvgMs,
           rttMaxMs := tail.rttMaxMs, onewayMs := tail.onewayMs, leg := tail.leg,
           viaTurn := tail.viaTurn }

def decodeRtcpRtt (tsUs : UInt64) : Reader RtcpRttEvt := do
  let callId ← readString
  let ssrc ← readU32
  let rttMs ← readF64
  let onewayMs ← readOptF64
  return { tsUs, callId, ssrc, rttMs, onewayMs }

def decodeHealthBucket : Reader HealthBucket := do
  let bucketUs ← readVarint
  let dimKey ← readString
  let metrics ← readMetricSet
  return { bucketUs, dimKey, metrics }

def decodeError (tsUs : UInt64) : Reader ErrorEvt := do
  let kind ← readString
  let msg ← readString
  return { tsUs, kind, msg }

def decodeTxn (tsUs : UInt64) : Reader TxnEvt := do
  let callId ← readString
  let branch ← readString
  let method ← readString
  let responseCode ← readOptU16
  let delayMs ← readOptU32
  return { tsUs, callId, branch, method, responseCode, delayMs }

def decodeDiag (tsUs : UInt64) : Reader DiagEvt := do
  let callId ← readString
  let severity ← readByte
  let code ← readString
  let message ← readString
  return { tsUs, callId, severity, code, message }

/-- The placeholder for a record type of a newer writer. -/
def unknownEvent (ty : UInt8) (tsUs : UInt64) : Event :=
  .error { tsUs, kind := "unknown_event", msg := "skipped event type " ++ toString ty.toNat }

def decodeEvent (ty : UInt8) (tsUs : UInt64) : Reader Event :=
  match ty.toNat with
  | 1 => Event.sipMsg <$> decodeSipMsg tsUs
  | 2 => Event.txn <$> decodeTxn tsUs
  | 3 => Event.call <$> decodeCall tsUs
  | 4 => Event.streamSnap <$> decodeStreamSnap tsUs
  | 5 => Event.rtcpRtt <$> decodeRtcpRtt tsUs
  | 6 => Event.healthBucket <$> decodeHealthBucket
  | 7 => Event.error <$> decodeError tsUs
  | 8 => Event.diag <$> decodeDiag tsUs
  | _ => return unknownEvent ty tsUs

/-- `decode_payload`: trailing payload bytes are ignored. -/
def decodePayload (ty : UInt8) (tsUs : UInt64) (payload : Bytes) : Except ReadError Event :=
  (·.1) <$> decodeEvent ty tsUs payload

/-! ## Records -/

structure EvlogReader where
  /-- The part of the file that has not been read. -/
  rest : Bytes
  lastTs : UInt64
  tzOffsetSecs : Option Int32
  deriving DecidableEq

/-- `EvlogReader::new`: strip the header when the first four bytes are the magic. -/
def EvlogReader.new (file : Bytes) : EvlogReader :=
  if file.take 4 = magic then
    let body := (file.drop 4).take 8
    let tz := if body.length = 8 ∧ 2 ≤ ofBytes (body.take 2) then
        some (Int32.ofNat (ofBytes (body.drop 4)))
      else none
    { rest := file.drop 12, lastTs := 0, tzOffsetSecs := tz }
  else { rest := file, lastTs := 0, tzOffsetSecs := none }

structure RawRecord where
  ty : UInt8
  tsUs : UInt64
  payload : Bytes
  deriving DecidableEq

inductive LogError where
  | io (kind : ReadError)
  | recordTooLong (len : Nat)
  deriving DecidableEq

/-- `EvlogReader::next_raw`: a record cut off by the end of the file reads as a
clean end. A read that fails has drained the input it asked for. -/
def EvlogReader.nextRaw (r : EvlogReader) : Except LogError (Option RawRecord) × EvlogReader :=
  match readVarint r.rest with
  | .error .unexpectedEof => (.ok none, { r with rest := [] })
  | .error kind => (.error (.io kind), { r with rest := [] })
  | .ok (delta, rest) =>
    let tsUs := satAdd r.lastTs delta
    let r := { r with lastTs := tsUs, rest := rest }
    match readByte rest with
    | .error _ => (.ok none, { r with rest := [] })
    | .ok (ty, rest) =>
      match readVarint rest with
      | .error .unexpectedEof => (.ok none, { r with rest := [] })
      | .error kind => (.error (.io kind), { r with rest := [] })
      | .ok (len, rest) =>
        if maxRecordLen < len.toNat then
          (.error (.recordTooLong len.toNat), { r with rest := rest })
        else match readExact len.toNat rest with
          | .error _ => (.ok none, { r with rest := [] })
          | .ok (payload, rest) =>
            (.ok (some { ty, tsUs, payload }), { r with rest := rest })

/-! ## Progress of the reader

Every successful read shortens the unread input, which is why the loop of
`next_event` over undecodable payloads ends.
-/

theorem readVarintFrom_nil (result : UInt64) (shift : Nat) :
    readVarintFrom result shift [] = .error .unexpectedEof := by
  rw [readVarintFrom]
  rfl

theorem readVarintFrom_cons (result : UInt64) (shift : Nat) (b : UInt8) (rest : Bytes) :
    readVarintFrom result shift (b :: rest) =
      if b &&& 0x80 = 0 then
        .ok (result ||| ((b &&& 0x7f).toUInt64 <<< UInt64.ofNat shift), rest)
      else if 64 ≤ shift + 7 then .error .invalidData
      else readVarintFrom (result ||| ((b &&& 0x7f).toUInt64 <<< UInt64.ofNat shift))
        (shift + 7) rest := by
  rw [readVarintFrom]
  change (if b &&& 0x80 = 0 then _ else _ : Reader UInt64) rest = _
  split
  · rfl
  · split <;> rfl

theorem readVarintFrom_consumes (result v : UInt64) (shift : Nat) (input rest : Bytes)
    (success : readVarintFrom result shift input = .ok (v, rest)) : rest.length < input.length := by
  induction input generalizing result shift with
  | nil =>
    rw [readVarintFrom_nil] at success
    cases success
  | cons b input ih =>
    rw [readVarintFrom_cons] at success
    split at success
    · cases success
      exact Nat.lt_succ_self _
    · split at success
      · cases success
      · exact Nat.lt_succ_of_lt (ih _ _ success)

theorem readByte_consumes (b : UInt8) (input rest : Bytes)
    (success : readByte input = .ok (b, rest)) : rest.length < input.length := by
  cases input with
  | nil => cases success
  | cons c input =>
    cases success
    exact Nat.lt_succ_self _

theorem readExact_consumes (n : Nat) (input rest bs : Bytes)
    (success : readExact n input = .ok (bs, rest)) : rest.length + n = input.length := by
  unfold readExact at success
  split at success
  · next enough =>
    cases success
    rw [List.length_drop]
    omega
  · cases success

theorem EvlogReader.nextRaw_consumes (r after : EvlogReader) (raw : RawRecord)
    (success : r.nextRaw = (.ok (some raw), after)) : after.rest.length < r.rest.length := by
  unfold nextRaw at success
  split at success
  · cases success
  · cases success
  · next delta rest read =>
    have first := readVarintFrom_consumes _ _ _ _ _ read
    dsimp only at success
    split at success
    · cases success
    · next ty rest' read =>
      have second := readByte_consumes _ _ _ read
      split at success
      · cases success
      · cases success
      · next len rest'' read =>
        have third := readVarintFrom_consumes _ _ _ _ _ read
        split at success
        · cases success
        · split at success
          · cases success
          · next payload remaining read =>
            have last := readExact_consumes _ _ _ _ read
            cases success
            change remaining.length < _
            omega

theorem EvlogReader.nextRaw_empty (r : EvlogReader) (empty : r.rest = []) :
    r.nextRaw.1 = .ok none := by
  have starved : readVarint [] = .error .unexpectedEof := readVarintFrom_nil 0 0
  unfold nextRaw
  rw [empty, starved]

/-- What a loop over `next_raw` collects, and how it ends. -/
def EvlogReader.rawReplay (r : EvlogReader) : List RawRecord × Except LogError Unit :=
  match _next : r.nextRaw with
  | (.error e, _) => ([], .error e)
  | (.ok none, _) => ([], .ok ())
  | (.ok (some raw), after) =>
    let (raws, ending) := after.rawReplay
    (raw :: raws, ending)
termination_by r.rest.length
decreasing_by exact nextRaw_consumes _ _ _ _next

theorem EvlogReader.rawReplay_eq (r : EvlogReader) :
    r.rawReplay = match r.nextRaw with
      | (.error e, _) => ([], .error e)
      | (.ok none, _) => ([], .ok ())
      | (.ok (some raw), after) => (raw :: after.rawReplay.1, after.rawReplay.2) := by
  rw [rawReplay]
  split <;> simp_all

/-- `EvlogReader::next_event`: a framed record whose payload does not decode is skipped. -/
def EvlogReader.nextEvent (r : EvlogReader) : Except LogError (Option Event) × EvlogReader :=
  match _raw : r.nextRaw with
  | (.error e, after) => (.error e, after)
  | (.ok none, after) => (.ok none, after)
  | (.ok (some rec_), after) =>
    match decodePayload rec_.ty rec_.tsUs rec_.payload with
    | .ok ev => (.ok (some ev), after)
    | .error _ => after.nextEvent
termination_by r.rest.length
decreasing_by exact nextRaw_consumes _ _ _ _raw

theorem EvlogReader.nextEvent_eq (r : EvlogReader) :
    r.nextEvent = match r.nextRaw with
      | (.error e, after) => (.error e, after)
      | (.ok none, after) => (.ok none, after)
      | (.ok (some rec_), after) =>
        match decodePayload rec_.ty rec_.tsUs rec_.payload with
        | .ok ev => (.ok (some ev), after)
        | .error _ => after.nextEvent := by
  rw [nextEvent]
  split <;> simp_all

theorem EvlogReader.nextEvent_consumes (r after : EvlogReader) (ev : Event)
    (success : r.nextEvent = (.ok (some ev), after)) : after.rest.length < r.rest.length := by
  induction r using nextEvent.induct with
  | case1 r e next raw =>
    rw [nextEvent_eq, raw] at success
    cases success
  | case2 r next raw =>
    rw [nextEvent_eq, raw] at success
    cases success
  | case3 r rec_ next raw ev' decoded =>
    rw [nextEvent_eq, raw] at success
    simp only [decoded, Prod.mk.injEq] at success
    rw [← success.2]
    exact nextRaw_consumes _ _ _ raw
  | case4 r rec_ next raw e failed ih =>
    rw [nextEvent_eq, raw] at success
    simp only [failed] at success
    exact Nat.lt_trans (ih success) (nextRaw_consumes _ _ _ raw)

/-- What a loop over `next_event` collects, and how it ends: at `Ok(None)` or
with the first error. -/
def EvlogReader.replay (r : EvlogReader) : List Event × Except LogError Unit :=
  match _next : r.nextEvent with
  | (.error e, _) => ([], .error e)
  | (.ok none, _) => ([], .ok ())
  | (.ok (some ev), after) =>
    let (evs, ending) := after.replay
    (ev :: evs, ending)
termination_by r.rest.length
decreasing_by exact nextEvent_consumes _ _ _ _next

theorem EvlogReader.replay_eq (r : EvlogReader) :
    r.replay = match r.nextEvent with
      | (.error e, _) => ([], .error e)
      | (.ok none, _) => ([], .ok ())
      | (.ok (some ev), after) => (ev :: after.replay.1, after.replay.2) := by
  rw [replay]
  split <;> simp_all

theorem EvlogReader.replay_end (r : EvlogReader) (ended : r.nextRaw.1 = .ok none) :
    r.replay = ([], .ok ()) := by
  have last : r.nextEvent.1 = .ok none := by
    rw [nextEvent_eq]
    split <;> simp_all
  rw [replay_eq]
  split <;> simp_all

/-- Reading a whole file. -/
def replayFile (file : Bytes) : List Event × Except LogError Unit := (EvlogReader.new file).replay

end Sipmon.Source.Evlog
