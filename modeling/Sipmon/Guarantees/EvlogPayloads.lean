import Sipmon.Guarantees.EvlogFields

/-!
# Payload round trips of the event log

`decode_payload` inverts `encode_event_payload` for each of the eight kinds,
under whatever clock the record is read. The only premise is that the payload
has a `u64` length, which is true of every Rust `Vec`.
-/
namespace Sipmon.Guarantees.EvlogPayloads
open Lib.ByteReader Source Source.Evlog EvlogFields

variable (ts : UInt64)

theorem decodeSipMsg_codes (e : SipMsgEvt) :
    Codes (decodeSipMsg ts) (encodeSipMsg e) { e with tsUs := ts } := by
  unfold encodeSipMsg
  simp only [List.append_assoc]
  exact (readFlow_decodes _).below.bind <| (readBool_decodes _).below.bind <|
    (readOptString_codes _).bind <| (readOptU16_decodes _).below.bind <|
    (readString_codes _).bind <| (readOptU32_decodes _).below.bind <|
    (readOptString_codes _).bind <| (readOptString_codes _).bind <| (readOptString_codes _).bind <|
    (readBytes_codes _).bind_pure

theorem decodeTxn_codes (e : TxnEvt) :
    Codes (decodeTxn ts) (encodeTxn e) { e with tsUs := ts } := by
  unfold encodeTxn
  simp only [List.append_assoc]
  exact (readString_codes _).bind <| (readString_codes _).bind <| (readString_codes _).bind <|
    (readOptU16_decodes _).below.bind <| (readOptU32_decodes _).below.bind_pure

theorem callEvtKindOf_toByte (kind : CallEvtKind) : callEvtKindOf kind.toByte = kind := by
  cases kind <;> rfl

theorem decodeCall_codes (e : CallEvt) :
    Codes (decodeCall ts) (encodeCall e) { e with tsUs := ts } := by
  unfold encodeCall
  simp only [List.append_assoc]
  refine (readString_codes _).bind <| (readByte_decodes _).below.bind ?_
  simp only [callEvtKindOf_toByte]
  exact (readOptString_codes _).bind <| (readOptString_codes _).bind <|
    (readOptString_codes _).bind <| (readOptString_codes _).bind <|
    (readByte_decodes _).below.bind <| (readByte_decodes _).below.bind <|
    (readOptU64_decodes _).below.bind <| (readOptU64_decodes _).below.bind <|
    (readOptU64_decodes _).below.bind <| (readOptU64_decodes _).below.bind <|
    (readOptU64_decodes _).below.bind <| (readOptU64_decodes _).below.bind <|
    (readOptU32_decodes _).below.bind <| (readOptU32_decodes _).below.bind <|
    (readOptU32_decodes _).below.bind <| (readOptString_codes _).bind <|
    (readVarint_decodes _).below.bind <| (readVarint_decodes _).below.bind <|
    (readVarint_decodes _).below.bind <| (readVarint_decodes _).below.bind_pure

/-- The tail fields of a snapshot, as `encode_stream_snap` lays them out. -/
def encodeSnapTail (e : StreamSnapEvt) : Bytes :=
  writeVarint e.bytes ++ (writeOptU64 e.firstTsUs ++ (writeOptU64 e.lastTsUs ++
    (writeOptF64 e.rttMinMs ++ (writeOptF64 e.rttAvgMs ++ (writeOptF64 e.rttMaxMs ++
    (writeOptF64 e.onewayMs ++ (writeOptString e.leg ++ writeBool e.viaTurn)))))))

/-- The tail a snapshot is read back to. -/
def snapTailOf (e : StreamSnapEvt) : SnapTail :=
  { bytes := e.bytes, firstTsUs := e.firstTsUs, lastTsUs := e.lastTsUs, rttMinMs := e.rttMinMs,
    rttAvgMs := e.rttAvgMs, rttMaxMs := e.rttMaxMs, onewayMs := e.onewayMs, leg := e.leg,
    viaTurn := e.viaTurn }

theorem readSnapFields_codes (e : StreamSnapEvt) :
    Codes readSnapFields (encodeSnapTail e) (snapTailOf e) := by
  unfold encodeSnapTail
  exact (readVarint_decodes _).below.bind <| (readOptU64_decodes _).below.bind <|
    (readOptU64_decodes _).below.bind <| (readOptF64_decodes _).below.bind <|
    (readOptF64_decodes _).below.bind <| (readOptF64_decodes _).below.bind <|
    (readOptF64_decodes _).below.bind <| (readOptString_codes _).bind <|
    (readBool_decodes _).below.bind_pure

/-- A tail that is there is read in full: its first varint takes a byte. -/
theorem readSnapTail_codes (e : StreamSnapEvt) :
    Codes readSnapTail (encodeSnapTail e) (snapTailOf e) := by
  intro short rest
  have present : ¬ (encodeSnapTail e ++ rest).isEmpty := by
    have first := writeVarint_length_pos e.bytes
    rw [List.isEmpty_iff_length_eq_zero, encodeSnapTail, List.length_append, List.length_append]
    omega
  change readSnapTail (encodeSnapTail e ++ rest) = _
  rw [readSnapTail, if_neg present]
  exact readSnapFields_codes e short rest

theorem decodeStreamSnap_codes (e : StreamSnapEvt) :
    Codes (decodeStreamSnap ts) (encodeStreamSnap e) { e with tsUs := ts } := by
  unfold encodeStreamSnap
  simp only [List.append_assoc]
  exact (readString_codes _).bind <| (readU32_decodes _).below.bind <|
    (readFlow_decodes _).below.bind <| (readOptString_codes _).bind <|
    (readOptU8_decodes _).below.bind <| (readVarint_decodes _).below.bind <|
    (readVarint_decodes _).below.bind <| (readVarint_decodes _).below.bind <|
    (readF64_decodes _).below.bind <| (readOptF64_decodes _).below.bind <|
    (readOptF64_decodes _).below.bind <| (readOptString_codes _).bind <|
    (readSnapTail_codes e).bind_pure

theorem decodeRtcpRtt_codes (e : RtcpRttEvt) :
    Codes (decodeRtcpRtt ts) (encodeRtcpRtt e) { e with tsUs := ts } := by
  unfold encodeRtcpRtt
  simp only [List.append_assoc]
  exact (readString_codes _).bind <| (readU32_decodes _).below.bind <|
    (readF64_decodes _).below.bind <| (readOptF64_decodes _).below.bind_pure

theorem decodeHealthBucket_codes (e : HealthBucket) :
    Codes decodeHealthBucket (encodeHealthBucket e) e := by
  unfold encodeHealthBucket
  simp only [List.append_assoc]
  exact (readVarint_decodes _).below.bind <| (readString_codes _).bind <|
    (readMetricSet_decodes _).below.bind_pure

theorem decodeError_codes (e : ErrorEvt) :
    Codes (decodeError ts) (encodeError e) { e with tsUs := ts } := by
  unfold encodeError
  exact (readString_codes _).bind <| (readString_codes _).bind_pure

theorem decodeDiag_codes (e : DiagEvt) :
    Codes (decodeDiag ts) (encodeDiag e) { e with tsUs := ts } := by
  unfold encodeDiag
  simp only [List.append_assoc]
  exact (readString_codes _).bind <| (readByte_decodes _).below.bind <|
    (readString_codes _).bind <| (readString_codes _).bind_pure

/-- The record type of an event. -/
def typeOf (ev : Event) : UInt8 := (encodeEventPayload ev).2.toByte

theorem decodeEvent_codes (ev : Event) :
    Codes (decodeEvent (typeOf ev) ts) (payloadOf ev) (ev.retime ts) := by
  cases ev with
  | sipMsg e => exact (decodeSipMsg_codes ts e).map _
  | txn e => exact (decodeTxn_codes ts e).map _
  | call e => exact (decodeCall_codes ts e).map _
  | streamSnap e => exact (decodeStreamSnap_codes ts e).map _
  | rtcpRtt e => exact (decodeRtcpRtt_codes ts e).map _
  | healthBucket e => exact (decodeHealthBucket_codes e).map _
  | error e => exact (decodeError_codes ts e).map _
  | diag e => exact (decodeDiag_codes ts e).map _

/-- `decode_payload` inverts `encode_event_payload` up to the record clock. -/
theorem decodePayload_payloadOf (ev : Event) (fits : (payloadOf ev).length < 2 ^ 64) :
    decodePayload (typeOf ev) ts (payloadOf ev) = .ok (ev.retime ts) := by
  have whole := (decodeEvent_codes ts ev fits).run_self
  change decodeEvent (typeOf ev) ts (payloadOf ev) = _ at whole
  rw [decodePayload, whole]
  rfl

end Sipmon.Guarantees.EvlogPayloads
