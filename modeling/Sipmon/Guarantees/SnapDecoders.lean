import Sipmon.Guarantees.EvlogLite

/-!
# Three decoders of one stream snapshot

`decode_payload` reads every field, `parse_stream_summary` reads them into the
replay row and `parse_stream_snap_lite` passes over what the statistics do not
need. Over arbitrary bytes, not only written ones: what the first accepts the
other two accept, with the same values.
-/
namespace Sipmon.Guarantees.SnapDecoders
open Lib.ByteReader Source Source.Evlog EvlogFields EvlogLite
open Text (fromUtf8 fromUtf8Lossy)

variable {α β γ δ : Type}

/-! ## Fields -/

theorem sliceVarint_mirrors : Mirrors Eq readVarint sliceVarint := fun input a rest read =>
  ⟨a, rfl, sliceVarintFrom_of_read 10 0 0 input (a, rest) (by decide) (by decide) read⟩

/-- The flag byte decides alike, whatever is made of the field behind it. -/
theorem flagged_mirrors {rel : α → β → Prop} {out : Option α → γ → Prop} {r : Reader α}
    {r' : Reader β} {absent : γ} {present : β → γ} (field : Mirrors rel r r') (left : out none absent)
    (taken : ∀ a b, rel a b → out (some a) (present b)) :
    Mirrors out (readOpt r) (do
      let flag ← readByte
      if flag = 0 then return absent
      else
        let value ← r'
        return present value) := by
  refine (Mirrors.refl readByte).bind ?_
  rintro flag _ rfl
  split
  · exact Mirrors.pure left
  · exact field.bind fun a b related => Mirrors.pure (taken a b related)

theorem sliceOpt_mirrors {r r' : Reader α} (field : Mirrors Eq r r') :
    Mirrors Eq (readOpt r) (sliceOpt r') :=
  flagged_mirrors field rfl fun _ _ same => congrArg some same

theorem sliceOptU64_mirrors : Mirrors Eq readOptU64 sliceOptU64 := sliceOpt_mirrors sliceVarint_mirrors
theorem sliceOptF64_mirrors : Mirrors Eq readOptF64 sliceOptF64 := Mirrors.refl readOptF64
theorem sliceOptU8_mirrors : Mirrors Eq readOptU8 sliceOptU8 := Mirrors.refl readOptU8

/-- What is passed over has the same extent. -/
abbrev Skips (r : Reader α) (r' : Reader β) : Prop := Mirrors (fun _ _ => True) r r'

theorem need_one_skips : Skips readByte (need 1) := by
  intro input b rest read
  cases input with
  | nil => cases read
  | cons c input =>
    cases read
    exact ⟨[b], trivial, rfl⟩

theorem need_skips {n : Nat} {f : Bytes → α} : Skips (readExact n >>= fun b => pure (f b)) (need n) := by
  intro input a rest read
  obtain ⟨b, mid, taken, made⟩ := bind_ok read
  cases made
  exact ⟨b, trivial, taken⟩

theorem skipOptU8_mirrors : Skips readOptU8 (skipOptTagged 1) :=
  flagged_mirrors need_one_skips trivial fun _ _ _ => trivial

theorem skipOptF64_mirrors : Skips readOptF64 (skipOptTagged 8) :=
  flagged_mirrors need_skips trivial fun _ _ _ => trivial

theorem skipOptVarint_mirrors : Skips readOptU64 skipOptVarint :=
  flagged_mirrors sliceVarint_mirrors trivial fun _ _ _ => trivial

/-- An optional string, whatever is made of its bytes. -/
theorem optString_mirrors {out : Option String → γ → Prop} {absent : γ} {present : Bytes → γ}
    (left : out none absent) (taken : ∀ bs, out (some (fromUtf8Lossy bs)) (present bs)) :
    Mirrors out readOptString (do
      let len ← sliceVarint
      if len = 0 then return absent
      else
        let head ← need (len.toNat - 1)
        return present head) := by
  refine sliceVarint_mirrors.bind ?_
  rintro len _ rfl
  split
  · exact Mirrors.pure left
  · next announced =>
    have positive : 1 ≤ len.toNat := by
      rw [Nat.one_le_iff_ne_zero]
      intro zero
      exact announced (UInt64.toNat_inj.mp zero)
    have body : (len - 1).toNat = len.toNat - 1 := UInt64.toNat_sub_of_le _ _ positive
    rw [body]
    refine (Mirrors.refl (readExact (len.toNat - 1))).bind ?_
    rintro bs _ rfl
    exact Mirrors.pure (taken bs)

theorem sliceOptOwnedString_mirrors : Mirrors Eq readOptString sliceOptOwnedString :=
  optString_mirrors rfl fun _ => rfl

theorem skipOptString_mirrors : Skips readOptString skipOptString :=
  optString_mirrors trivial fun _ => trivial

theorem sliceSockaddr_mirrors : Mirrors Eq readSockaddr sliceSockaddr := by
  refine (Mirrors.refl readByte).chain fun tag => ?_
  refine (Mirrors.refl (readIp tag)).chain fun ip => ?_
  have port : Mirrors (fun port p => port = UInt16.ofNat (Lib.BigEndian.ofBytes p)) readU16 (need 2) := by
    intro input port rest read
    obtain ⟨b, mid, taken, made⟩ := bind_ok read
    cases made
    exact ⟨b, rfl, taken⟩
  exact port.bind fun port p same => Mirrors.pure (by rw [same])

theorem sliceFlow_mirrors : Mirrors Eq readFlow sliceFlow := by
  refine (Mirrors.refl readByte).chain fun pb => ?_
  refine sliceSockaddr_mirrors.chain fun src => ?_
  exact sliceSockaddr_mirrors.chain fun dst => Mirrors.pure rfl

/-! ## The appended fields -/

/-- A field that needs a byte does not start at the end of the slice. -/
theorem unended_mirrors {more : γ → δ → Prop} {r : Reader α} {next : α → Reader γ}
    {next' : Bool → Reader δ} (starved : r.run [] = .error .unexpectedEof)
    (present : Mirrors more (r >>= next) (next' false)) :
    Mirrors more (r >>= next) (sliceDone >>= next') := by
  intro input c rest read
  cases input with
  | nil =>
    obtain ⟨a, mid, early, late⟩ := bind_ok read
    rw [starved] at early
    cases early
  | cons b input => exact present (b :: input) c rest read

theorem readOptString_starved : readOptString.run [] = .error .unexpectedEof := by
  rw [readOptString, StateT.run_bind]
  change (readVarintFrom 0 0 [] >>= _) = _
  rw [readVarintFrom_nil]
  rfl

theorem readBool_starved : readBool.run [] = .error .unexpectedEof := rfl

/-- Older logs end here: both sides look for the end of the slice first. -/
theorem tail_mirrors {more : SnapTail → δ → Prop} {next : Bool → Reader δ}
    (old : Mirrors more (pure {}) (next true)) (new : Mirrors more readSnapFields (next false)) :
    Mirrors more readSnapTail (sliceDone >>= next) := by
  intro input tail rest read
  cases input with
  | nil => exact old [] tail rest read
  | cons b input => exact new (b :: input) tail rest read

theorem tail_leads {more : γ → δ → Prop} {build : SnapTail → Reader γ} {next : Bool → Reader δ}
    (old : Leads more (build {}) (next true)) (new : Leads more (readSnapFields >>= build) (next false)) :
    Leads more (readSnapTail >>= build) (sliceDone >>= next) := by
  intro input c rest read
  cases input with
  | nil => exact old [] c rest read
  | cons b input => exact new (b :: input) c rest read

theorem sliceSnapTail_mirrors : Mirrors Eq readSnapTail sliceSnapTail := by
  refine tail_mirrors (Mirrors.pure rfl) (sliceVarint_mirrors.chain fun bytes => ?_)
  refine sliceOptU64_mirrors.chain fun firstTsUs => ?_
  refine sliceOptU64_mirrors.chain fun lastTsUs => ?_
  refine sliceOptF64_mirrors.chain fun rttMinMs => ?_
  refine sliceOptF64_mirrors.chain fun rttAvgMs => ?_
  refine sliceOptF64_mirrors.chain fun rttMaxMs => ?_
  refine sliceOptF64_mirrors.chain fun onewayMs => ?_
  refine unended_mirrors readOptString_starved (sliceOptOwnedString_mirrors.chain fun leg => ?_)
  refine unended_mirrors readBool_starved ((Mirrors.refl readBool).chain fun viaTurn => ?_)
  exact Mirrors.pure rfl

/-! ## The three decoders -/

/-- The bytes of the `call_id` that opens a snapshot. -/
def callIdBytes (payload : Bytes) : Option Bytes :=
  match readBytes payload with
  | .ok (bs, _) => some bs
  | .error _ => none

/-- Whether they are text. -/
def CallIdIsUtf8 (payload : Bytes) : Prop :=
  ((callIdBytes payload).bind fromUtf8).isSome

/-- The replay row of an event; it has no rate history. -/
def summaryOf (e : StreamSnapEvt) : StreamSummary :=
  { callId := some e.callId, ssrc := e.ssrc, flow := some e.flow, codec := e.codec
    payloadType := e.payloadType, packets := e.packets.toNat, lost := e.lost.toNat
    expected := e.expected.toNat, lossPct := e.lossPct, jitterMs := e.jitterMs
    firstTsUs := e.firstTsUs, lastTsUs := e.lastTsUs, rttMinMs := e.rttMinMs
    rttAvgMs := e.rttAvgMs, rttMaxMs := e.rttMaxMs, onewayMs := e.onewayMs, mos := e.mos
    direction := e.direction, leg := e.leg, viaTurn := e.viaTurn, bytes := e.bytes.toNat
    history := [] }

/-- On text the strict and the lossy reading of `call_id` agree. -/
theorem callId_read {payload rest : Bytes} {callId : String} (text : CallIdIsUtf8 payload)
    (read : readString.run payload = .ok (callId, rest)) :
    sliceStr.run payload = .ok (callId, rest) := by
  obtain ⟨len, mid, announced, body⟩ := bind_ok read
  obtain ⟨bs, mid', taken, made⟩ := bind_ok body
  cases made
  have bytes : readBytes payload = .ok (bs, rest) := by
    change (readVarint >>= fun len => readExact len.toNat).run payload = _
    rw [run_bind_ok announced]
    exact taken
  unfold CallIdIsUtf8 callIdBytes at text
  rw [bytes] at text
  obtain ⟨str, valid⟩ := Option.isSome_iff_exists.mp text
  change fromUtf8 bs = some str at valid
  obtain ⟨_, rfl, announced'⟩ := sliceVarint_mirrors payload len mid announced
  rw [sliceStr, run_bind_ok announced', run_bind_ok (show (need len.toNat).run mid = _ from taken),
    fromUtf8Lossy, valid]
  rfl

/-- Both slice decoders read `call_id` first; behind it they follow the full decoder. -/
theorem decoded_behind {make : StreamSnapEvt → δ} {next : String → Reader StreamSnapEvt}
    {next' : String → Reader δ} {payload rest : Bytes} {e : StreamSnapEvt} (text : CallIdIsUtf8 payload)
    (read : (readString >>= next).run payload = .ok (e, rest))
    (fields : ∀ callId, Leads (fun e out => out = make e) (next callId) (next' callId)) :
    ∃ left, (sliceStr >>= next').run payload = .ok (make e, left) := by
  obtain ⟨callId, mid, early, late⟩ := bind_ok read
  rw [run_bind_ok (callId_read text early)]
  obtain ⟨_, left, rfl, parsed⟩ := fields callId mid e rest late
  exact ⟨left, parsed⟩

/-- The statistics decoder keeps to the layout up to `rtt_avg_ms` and stops there. -/
theorem parseStreamSnapLite_decoded {tsUs : UInt64} {payload rest : Bytes} {e : StreamSnapEvt}
    (text : CallIdIsUtf8 payload) (read : (decodeStreamSnap tsUs).run payload = .ok (e, rest)) :
    parseStreamSnapLite payload = some (liteOf e) := by
  have parsed : ∃ left, parseStreamSnapLiteFrom.run payload = .ok (liteOf e, left) := by
    refine decoded_behind text read fun callId => ?_
    refine (Mirrors.refl readU32).chain_leads fun ssrc => ?_
    refine sliceFlow_mirrors.chain_leads fun flow => ?_
    refine skipOptString_mirrors.bind_leads fun codec _ _ => ?_
    refine skipOptU8_mirrors.bind_leads fun payloadType _ _ => ?_
    refine sliceVarint_mirrors.chain_leads fun packets => ?_
    refine sliceVarint_mirrors.chain_leads fun lost => ?_
    refine sliceVarint_mirrors.chain_leads fun expected => ?_
    refine Mirrors.bind_leads (need_skips : Skips readF64 (need 8)) fun lossPct _ _ => ?_
    refine sliceOptF64_mirrors.chain_leads fun jitterMs => ?_
    refine sliceOptF64_mirrors.chain_leads fun mos => ?_
    refine skipOptString_mirrors.bind_leads fun direction _ _ => ?_
    refine tail_leads (Mirrors.leads (Mirrors.pure rfl)) ?_
    unfold readSnapFields
    simp only [bind_assoc, pure_bind]
    refine sliceVarint_mirrors.chain_leads fun bytes => ?_
    refine skipOptVarint_mirrors.bind_leads fun firstTsUs _ _ => ?_
    refine skipOptVarint_mirrors.bind_leads fun lastTsUs _ _ => ?_
    refine skipOptF64_mirrors.bind_leads fun rttMinMs _ _ => ?_
    refine sliceOptF64_mirrors.chain_leads fun rttAvgMs => ?_
    refine Leads.stop fun rttMaxMs => Leads.stop fun onewayMs => ?_
    exact Leads.stop fun leg => Leads.stop fun viaTurn => Mirrors.leads (Mirrors.pure rfl)
  obtain ⟨left, parsed⟩ := parsed
  rw [parseStreamSnapLite, show parseStreamSnapLiteFrom payload = _ from parsed]

theorem parseStreamSummary_decoded {tsUs : UInt64} {payload rest : Bytes} {e : StreamSnapEvt}
    (text : CallIdIsUtf8 payload) (read : (decodeStreamSnap tsUs).run payload = .ok (e, rest)) :
    parseStreamSummary payload = some (summaryOf e) := by
  have parsed : ∃ left, parseStreamSummaryFrom.run payload = .ok (summaryOf e, left) := by
    refine decoded_behind text read fun callId => ?_
    refine (Mirrors.refl readU32).chain_leads fun ssrc => ?_
    refine sliceFlow_mirrors.chain_leads fun flow => ?_
    refine sliceOptOwnedString_mirrors.chain_leads fun codec => ?_
    refine sliceOptU8_mirrors.chain_leads fun payloadType => ?_
    refine sliceVarint_mirrors.chain_leads fun packets => ?_
    refine sliceVarint_mirrors.chain_leads fun lost => ?_
    refine sliceVarint_mirrors.chain_leads fun expected => ?_
    refine (Mirrors.refl readF64).chain_leads fun lossPct => ?_
    refine sliceOptF64_mirrors.chain_leads fun jitterMs => ?_
    refine sliceOptF64_mirrors.chain_leads fun mos => ?_
    refine sliceOptOwnedString_mirrors.chain_leads fun direction => ?_
    exact sliceSnapTail_mirrors.chain_leads fun tail => Mirrors.leads (Mirrors.pure rfl)
  obtain ⟨left, parsed⟩ := parsed
  rw [parseStreamSummary, show parseStreamSummaryFrom payload = _ from parsed]

/-- Only a record of type 4 decodes to a snapshot. -/
theorem decodePayload_streamSnap {ty : UInt8} {tsUs : UInt64} {payload : Bytes} {e : StreamSnapEvt}
    (decoded : decodePayload ty tsUs payload = .ok (.streamSnap e)) :
    ∃ rest, (decodeStreamSnap tsUs).run payload = .ok (e, rest) := by
  obtain ⟨rest, read⟩ : ∃ rest, (decodeEvent ty tsUs).run payload = .ok (.streamSnap e, rest) := by
    unfold decodePayload at decoded
    change (Prod.fst <$> (decodeEvent ty tsUs).run payload) = _ at decoded
    cases found : (decodeEvent ty tsUs).run payload with
    | error err =>
      rw [found] at decoded
      cases decoded
    | ok result =>
      rw [found] at decoded
      obtain ⟨ev, rest⟩ := result
      cases decoded
      exact ⟨rest, rfl⟩
  refine ⟨rest, ?_⟩
  unfold decodeEvent at read
  split at read
  case h_4 =>
    obtain ⟨_, made, snap⟩ := map_ok read
    cases made
    exact snap
  case h_9 => cases read
  all_goals
    obtain ⟨_, made, _⟩ := map_ok read
    cases made

/-- The payload of an older log, which ends after `direction`. -/
def oldPayload (e : StreamSnapEvt) : Bytes :=
  writeString e.callId ++ (writeU32 e.ssrc ++ (writeFlow e.flow ++ (writeOptString e.codec ++
    (writeOptU8 e.payloadType ++ (writeVarint e.packets ++ (writeVarint e.lost ++
      (writeVarint e.expected ++ (writeF64 e.lossPct ++ (writeOptF64 e.jitterMs ++
        (writeOptF64 e.mos ++ writeOptString e.direction))))))))))

/-- It is a snapshot without the appended fields. -/
def oldEvent (tsUs : UInt64) (e : StreamSnapEvt) : StreamSnapEvt :=
  { tsUs, callId := e.callId, ssrc := e.ssrc, flow := e.flow, codec := e.codec
    payloadType := e.payloadType, packets := e.packets, lost := e.lost, expected := e.expected
    lossPct := e.lossPct, jitterMs := e.jitterMs, mos := e.mos, direction := e.direction
    bytes := 0, firstTsUs := none, lastTsUs := none, rttMinMs := none, rttAvgMs := none
    rttMaxMs := none, onewayMs := none, leg := none, viaTurn := false }

theorem decodePayload_old (tsUs : UInt64) (e : StreamSnapEvt) (short : (oldPayload e).length < 2 ^ 64) :
    decodePayload 4 tsUs (oldPayload e) = .ok (.streamSnap (oldEvent tsUs e)) := by
  have read : (decodeStreamSnap tsUs).run (oldPayload e) = .ok (oldEvent tsUs e, []) := by
    unfold oldPayload at short ⊢
    rw [← List.append_nil (writeOptString e.direction)] at short ⊢
    refine (readString_codes _).run_bind short fun short => ?_
    refine (readU32_decodes _).below.run_bind short fun short => ?_
    refine (readFlow_decodes _).below.run_bind short fun short => ?_
    refine (readOptString_codes _).run_bind short fun short => ?_
    refine (readOptU8_decodes _).below.run_bind short fun short => ?_
    refine (readVarint_decodes _).below.run_bind short fun short => ?_
    refine (readVarint_decodes _).below.run_bind short fun short => ?_
    refine (readVarint_decodes _).below.run_bind short fun short => ?_
    refine (readF64_decodes _).below.run_bind short fun short => ?_
    refine (readOptF64_decodes _).below.run_bind short fun short => ?_
    refine (readOptF64_decodes _).below.run_bind short fun short => ?_
    exact (readOptString_codes _).run_bind short fun _ => rfl
  change (fun result => result.1) <$> (Event.streamSnap <$> decodeStreamSnap tsUs).run (oldPayload e) = _
  rw [StateT.run_map, read]
  rfl

/-- A written `call_id` is text. -/
theorem callIdIsUtf8_written (callId : String) (more : Bytes)
    (short : (writeString callId ++ more).length < 2 ^ 64) : CallIdIsUtf8 (writeString callId ++ more) := by
  rw [List.length_append] at short
  have first := readBytes_codes (stringBytes callId)
  have bytes := first (by unfold writeString at short; unfold writeBytes; omega)
  unfold CallIdIsUtf8 callIdBytes
  change (((match (readBytes.run _ : Except ReadError (Bytes × Bytes)) with
    | .ok (bs, _) => some bs
    | .error _ => none) : Option Bytes).bind fromUtf8).isSome
  rw [show writeString callId = writeBytes (stringBytes callId) from rfl, bytes]
  rw [Option.bind_some, fromUtf8_stringBytes]
  rfl

theorem callIdIsUtf8_old (e : StreamSnapEvt) (short : (oldPayload e).length < 2 ^ 64) :
    CallIdIsUtf8 (oldPayload e) := callIdIsUtf8_written e.callId _ short

/-- Whatever bytes the full decoder accepts as a snapshot, with text for a call
id, the replay row and the statistics record say the same of every field. -/
theorem snap_decoders_agree (ty : UInt8) (tsUs : UInt64) (payload : Bytes) (e : StreamSnapEvt)
    (decoded : decodePayload ty tsUs payload = .ok (.streamSnap e)) (text : CallIdIsUtf8 payload) :
    parseStreamSnapLite payload = some (liteOf e) ∧ parseStreamSummary payload = some (summaryOf e) := by
  obtain ⟨rest, read⟩ := decodePayload_streamSnap decoded
  exact ⟨parseStreamSnapLite_decoded text read, parseStreamSummary_decoded text read⟩

/-- A snapshot of an older log. -/
def oldSnap : StreamSnapEvt :=
  { tsUs := 7, callId := "a", ssrc := 5
    flow := ⟨.udp, ⟨.v4 ⟨10, 0, 0, 1⟩, 4000⟩, ⟨.v4 ⟨10, 0, 0, 2⟩, 5000⟩⟩, codec := some "PCMU"
    payloadType := some 0, packets := 300, lost := 2, expected := 302, lossPct := ⟨0⟩
    jitterMs := none, mos := none, direction := some "caller", bytes := 0, firstTsUs := none
    lastTsUs := none, rttMinMs := none, rttAvgMs := none, rttMaxMs := none, onewayMs := none
    leg := none, viaTurn := false }

theorem snap_decoders_agree_old :
    parseStreamSnapLite (oldPayload oldSnap) = some (liteOf oldSnap) ∧
      parseStreamSummary (oldPayload oldSnap) = some (summaryOf oldSnap) := by
  have short : (oldPayload oldSnap).length < 2 ^ 64 := by decide +kernel
  exact snap_decoders_agree 4 7 (oldPayload oldSnap) oldSnap (decodePayload_old 7 oldSnap short)
    (callIdIsUtf8_old oldSnap short)

end Sipmon.Guarantees.SnapDecoders
