import Sipmon.Guarantees.EvlogPayloads
import Sipmon.Source.Evlog.Lite

/-!
# The skipping decoders against the writer

Each skipping decoder reads from a written payload what the full decoder would
have read. It may stop before the end of the payload: what it consumes is a
prefix of the encoding.
-/
namespace Sipmon.Guarantees.EvlogLite
open Lib.ByteReader Lib.BigEndian Source Source.Evlog EvlogFields EvlogPayloads
open Text (fromUtf8 fromUtf8Lossy)

/-! ## Fields -/

theorem sliceVarintFrom_cons (rounds : Nat) (result : UInt64) (shift : Nat) (b : UInt8)
    (rest : Bytes) :
    sliceVarintFrom (rounds + 1) result shift (b :: rest) =
      if b &&& 0x80 = 0 then
        .ok (result ||| ((b &&& 0x7f).toUInt64 <<< UInt64.ofNat shift), rest)
      else if 64 ≤ shift + 7 then .error .unexpectedEof
      else sliceVarintFrom rounds (result ||| ((b &&& 0x7f).toUInt64 <<< UInt64.ofNat shift))
        (shift + 7) rest := by
  change (if b &&& 0x80 = 0 then _ else _ : Reader UInt64) rest = _
  split
  · rfl
  · split <;> rfl

/-- Ten rounds are enough: `slice_varint` accepts whatever `read_varint` does. -/
theorem sliceVarintFrom_of_read (rounds : Nat) (result : UInt64) (shift : Nat) (input : Bytes)
    (value : UInt64 × Bytes) (inRange : shift < 64) (enough : 70 ≤ shift + 7 * rounds)
    (read : readVarintFrom result shift input = .ok value) :
    sliceVarintFrom rounds result shift input = .ok value := by
  induction rounds generalizing result shift input with
  | zero => omega
  | succ rounds ih =>
    cases input with
    | nil =>
      rw [readVarintFrom_nil] at read
      cases read
    | cons b rest =>
      rw [readVarintFrom_cons] at read
      rw [sliceVarintFrom_cons]
      by_cases last : b &&& 0x80 = 0
      · rwa [if_pos last] at read ⊢
      · rw [if_neg last] at read ⊢
        by_cases overlong : 64 ≤ shift + 7
        · rw [if_pos overlong] at read
          cases read
        · rw [if_neg overlong] at read ⊢
          exact ih _ _ _ (by omega) (by omega) read

theorem sliceVarint_decodes (n : UInt64) : Decodes sliceVarint (writeVarint n) n := fun rest =>
  sliceVarintFrom_of_read 10 0 0 _ _ (by decide) (by decide) (readVarint_decodes n rest)

theorem need_decodes (bs : Bytes) : Decodes (need bs.length) bs bs := readExact_decodes bs

theorem sliceStr_codes (str : String) : Codes sliceStr (writeString str) str := by
  intro short
  rw [writeString, List.length_append] at short
  refine (sliceVarint_decodes (lenU64 (stringBytes str))).bind ?_
  rw [lenU64_toNat _ (by omega)]
  have body := (need_decodes (stringBytes str)).bind_pure (f := fun head => (fromUtf8 head).getD "")
  rw [fromUtf8_stringBytes] at body
  exact body

/-- The announced length of an optional string that is there. -/
theorem announced_length (str : String) (short : (stringBytes str).length + 1 < 2 ^ 64) :
    (lenU64 (stringBytes str) + 1).toNat = (stringBytes str).length + 1 := by
  rw [UInt64.toNat_add, lenU64_toNat _ (by omega)]
  exact Nat.mod_eq_of_lt short

/-- An optional string by its length, then by a reader of its bytes. -/
theorem optString_codes {α : Type} (v : Option String) (absent : α) (present : Bytes → α) :
    Codes (do
        let len ← sliceVarint
        if len = 0 then return absent
        else
          let head ← need (len.toNat - 1)
          return present head)
      (writeOptString v) ((v.map fun str => present (stringBytes str)).getD absent) := by
  intro short
  cases v with
  | none =>
    rw [writeOptString, ← List.append_nil (writeVarint 0)]
    exact (sliceVarint_decodes 0).bind (Decodes.pure absent)
  | some str =>
    have prefixed := writeVarint_length_pos (lenU64 (stringBytes str) + 1)
    rw [writeOptString, List.length_append] at short
    have announced := announced_length str (by omega)
    have there : lenU64 (stringBytes str) + 1 ≠ 0 := by
      intro zero
      rw [zero] at announced
      cases announced
    refine (sliceVarint_decodes _).bind ?_
    rw [if_neg there, announced, Nat.add_sub_cancel]
    exact (need_decodes (stringBytes str)).bind_pure

theorem skipOptString_codes (v : Option String) : Codes skipOptString (writeOptString v) () :=
  optString_codes v () fun _ => ()

theorem skipOptTagged_decodes {α : Type} {body : Nat} (write : α → Bytes)
    (width : ∀ x, (write x).length = body) (v : Option α) :
    Decodes (skipOptTagged body) (writeOpt write v) () := by
  cases v with
  | none => exact (readByte_decodes 0).bind (Decodes.pure ())
  | some x =>
    refine (readByte_decodes 1).bind ?_
    rw [if_neg (by decide), ← width x]
    exact (need_decodes (write x)).bind_pure

theorem skipOptVarint_decodes (v : Option UInt64) : Decodes skipOptVarint (writeOptU64 v) () := by
  cases v with
  | none => exact (readByte_decodes 0).bind (Decodes.pure ())
  | some x => exact (readByte_decodes 1).bind (sliceVarint_decodes x).bind_pure

theorem sliceOptF64_decodes (v : Option F64) : Decodes sliceOptF64 (writeOptF64 v) v :=
  readOptF64_decodes v
theorem sliceU32_decodes (v : UInt32) : Decodes sliceU32 (writeU32 v) v := readU32_decodes v

theorem port_decodes (ip : IpAddr) (port : UInt16) :
    Decodes (need 2 >>= fun p => pure { ip := ip, port := UInt16.ofNat (ofBytes p) })
      (toBytes 2 port.toNat) { ip := ip, port := port : SocketAddr } :=
  readFixed_decodes 2 port.toNat port.toNat_lt (fun n => SocketAddr.mk ip (UInt16.ofNat n))
    ⟨ip, port⟩ (by rw [UInt16.ofNat_toNat])

theorem sliceSockaddr_decodes (sa : SocketAddr) :
    Decodes sliceSockaddr (writeSockaddr sa) sa := by
  obtain ⟨ip, port⟩ := sa
  cases ip with
  | v4 ip =>
    refine (readByte_decodes 4).bind ?_
    exact (readIp_four_decodes ip).bind (port_decodes (.v4 ip) port)
  | v6 ip =>
    refine (readByte_decodes 6).bind ?_
    exact (readIp_six_decodes ip).bind (port_decodes (.v6 ip) port)

theorem sliceFlow_decodes (flow : Flow5Tuple) : Decodes sliceFlow (writeFlow flow) flow := by
  unfold writeFlow
  rw [List.append_assoc]
  refine (readByte_decodes _).bind ((sliceSockaddr_decodes flow.src).bind ?_)
  have last := (sliceSockaddr_decodes flow.dst).bind_pure (f := fun dst =>
    { proto := if protoByte flow.proto = 1 then .tcp else .udp, src := flow.src, dst : Flow5Tuple })
  cases flow with
  | mk proto src dst => cases proto <;> exact last

/-- In front of a field that takes a byte the slice is not used up. -/
theorem sliceDone_codes {α : Type} {next : Bool → Reader α} {bs : Bytes} {a : α}
    (present : 0 < bs.length) (codes : Codes (next false) bs a) :
    Codes (sliceDone >>= next) bs a := by
  intro short rest
  have unfinished : (bs ++ rest).isEmpty = false := by
    rw [List.isEmpty_eq_false_iff, ← List.length_pos_iff, List.length_append]
    omega
  change (next (bs ++ rest).isEmpty).run (bs ++ rest) = _
  rw [unfinished]
  exact codes short rest

/-! ## Stream snapshots -/

/-- The fields of a snapshot from `bytes` to `rtt_avg_ms`, the last that is looked at. -/
def liteTail (e : StreamSnapEvt) : Bytes :=
  writeVarint e.bytes ++ (writeOptU64 e.firstTsUs ++ (writeOptU64 e.lastTsUs ++
    (writeOptF64 e.rttMinMs ++ writeOptF64 e.rttAvgMs)))

/-- What the skipping decoder consumes of a snapshot. -/
def liteFront (e : StreamSnapEvt) : Bytes :=
  writeString e.callId ++ (writeU32 e.ssrc ++ (writeFlow e.flow ++ (writeOptString e.codec ++
    (writeOptU8 e.payloadType ++ (writeVarint e.packets ++ (writeVarint e.lost ++
      (writeVarint e.expected ++ (writeF64 e.lossPct ++ (writeOptF64 e.jitterMs ++
        (writeOptF64 e.mos ++ (writeOptString e.direction ++ liteTail e)))))))))))

def liteRest (e : StreamSnapEvt) : Bytes :=
  writeOptF64 e.rttMaxMs ++ (writeOptF64 e.onewayMs ++ (writeOptString e.leg ++ writeBool e.viaTurn))

theorem encodeStreamSnap_split (e : StreamSnapEvt) :
    encodeStreamSnap e = liteFront e ++ liteRest e := by
  unfold encodeStreamSnap liteFront liteTail liteRest
  simp only [List.append_assoc]

/-- The fields of an event the statistics need. -/
def liteOf (e : StreamSnapEvt) : StreamSnapLite :=
  { callId := e.callId, ssrc := e.ssrc, flow := some e.flow, packets := e.packets, lost := e.lost
    bytes := e.bytes, jitterMs := e.jitterMs, mos := e.mos, rttAvgMs := e.rttAvgMs }

theorem writeF64_length (v : F64) : (writeF64 v).length = 8 := by
  rw [writeF64, toBytes_length]

theorem needF64_decodes (v : F64) : Decodes (need 8) (writeF64 v) (writeF64 v) := by
  have reads := need_decodes (writeF64 v)
  rwa [writeF64_length] at reads

theorem skipOptU8_decodes (v : Option UInt8) : Decodes (skipOptTagged 1) (writeOptU8 v) () :=
  skipOptTagged_decodes (fun x => [x]) (fun _ => rfl) v

theorem skipOptF64_decodes (v : Option F64) : Decodes (skipOptTagged 8) (writeOptF64 v) () :=
  skipOptTagged_decodes writeF64 writeF64_length v

theorem liteTail_pos (e : StreamSnapEvt) : 0 < (liteTail e).length := by
  rw [liteTail, List.length_append]
  exact Nat.lt_of_lt_of_le (writeVarint_length_pos e.bytes) (Nat.le_add_right _ _)

theorem parseStreamSnapLiteFrom_codes (e : StreamSnapEvt) :
    Codes parseStreamSnapLiteFrom (liteFront e) (liteOf e) :=
  (sliceStr_codes _).bind <| (sliceU32_decodes _).below.bind <|
    (sliceFlow_decodes _).below.bind <| (skipOptString_codes _).bind <|
    (skipOptU8_decodes _).below.bind <| (sliceVarint_decodes _).below.bind <|
    (sliceVarint_decodes _).below.bind <| (sliceVarint_decodes _).below.bind <|
    (needF64_decodes _).below.bind <|
    (sliceOptF64_decodes _).below.bind <| (sliceOptF64_decodes _).below.bind <|
    (skipOptString_codes _).bind <| sliceDone_codes (liteTail_pos e) <|
    (sliceVarint_decodes _).below.bind <| (skipOptVarint_decodes _).below.bind <|
    (skipOptVarint_decodes _).below.bind <|
    (skipOptF64_decodes _).below.bind <|
    (sliceOptF64_decodes _).below.bind_pure

theorem parseStreamSnapLite_encode (e : StreamSnapEvt) (short : (encodeStreamSnap e).length < 2 ^ 64) :
    parseStreamSnapLite (encodeStreamSnap e) = some (liteOf e) := by
  rw [encodeStreamSnap_split, List.length_append] at short
  have reads : parseStreamSnapLiteFrom (liteFront e ++ liteRest e) = .ok (liteOf e, liteRest e) :=
    parseStreamSnapLiteFrom_codes e (by omega) (liteRest e)
  rw [encodeStreamSnap_split, parseStreamSnapLite, reads]

/-! ## RTT samples -/

theorem parseRtcpRttMs_encode (e : RtcpRttEvt) (short : (encodeRtcpRtt e).length < 2 ^ 64) :
    parseRtcpRttMs (encodeRtcpRtt e) = some e.rttMs := by
  have split : encodeRtcpRtt e = writeString e.callId ++ (writeU32 e.ssrc ++ writeF64 e.rttMs) ++
      writeOptF64 e.onewayMs := by
    simp only [encodeRtcpRtt, List.append_assoc]
  rw [split, List.length_append] at short
  have width : (writeU32 e.ssrc ++ writeF64 e.rttMs).length = 4 + 8 := by
    rw [List.length_append, writeF64_length, writeU32, toBytes_length]
  have behind : (writeU32 e.ssrc ++ writeF64 e.rttMs).drop 4 = writeF64 e.rttMs :=
    List.drop_left' (toBytes_length 4 _)
  have value : (⟨UInt64.ofNat (ofBytes (writeF64 e.rttMs))⟩ : F64) = e.rttMs := by
    rw [writeF64, ofBytes_toBytes 8 _ e.rttMs.bits.toNat_lt, UInt64.ofNat_toNat]
  have body := (need_decodes (writeU32 e.ssrc ++ writeF64 e.rttMs)).bind_pure
    (f := fun b => (⟨UInt64.ofNat (ofBytes (b.drop 4))⟩ : F64))
  rw [width, behind, value] at body
  have reads : parseRtcpRttMsFrom _ = .ok (e.rttMs, writeOptF64 e.onewayMs) :=
    (sliceStr_codes e.callId).bind body.below (by omega) (writeOptF64 e.onewayMs)
  rw [split, parseRtcpRttMs, reads]

end Sipmon.Guarantees.EvlogLite
