import Sipmon.Guarantees.EvlogPayloads

/-!
# Framed records

One `EvlogWriter::write` against one `EvlogReader::next_raw`: a whole record is
read back under the clock its delta advances to, a torn one reads as the end of
the log, an oversized one is refused.
-/
namespace Sipmon.Guarantees.EvlogRecords
open Lib.ByteReader Source Source.Evlog EvlogFields EvlogPayloads

/-- A small event for runs on fixed inputs. -/
def diagAt (ts : UInt64) : Event :=
  .diag { tsUs := ts, callId := "a@b", severity := 1, code := "no_rtp", message := "no media" }

def snapAt (ts : UInt64) : Event :=
  .streamSnap {
    tsUs := ts, callId := "a@b", ssrc := 7
    flow := { proto := .udp, src := ⟨.v4 ⟨10, 0, 0, 1⟩, 4000⟩, dst := ⟨.v4 ⟨10, 0, 0, 2⟩, 5000⟩ }
    codec := some "PCMU", payloadType := some 0, packets := 250, lost := 3, expected := 253, lossPct := 1
    jitterMs := some 2, mos := none, direction := some "A->B", bytes := 43000, firstTsUs := some 1
    lastTsUs := some 5, rttMinMs := none, rttAvgMs := some 20, rttMaxMs := none, onewayMs := none
    leg := some "a", viaTurn := true }

def rttAt (ts : UInt64) : Event :=
  .rtcpRtt { tsUs := ts, callId := "a@b", ssrc := 7, rttMs := 20, onewayMs := some 10 }

/-- The clock a reader standing at `clock` reaches over the record of `ev`,
written after an event stamped `lastTs`. -/
def clockAfter (clock lastTs : UInt64) (ev : Event) : UInt64 :=
  satAdd clock (satSub ev.tsUs lastTs)

theorem record_eq (lastTs : UInt64) (ev : Event) :
    record lastTs ev = writeVarint (satSub ev.tsUs lastTs) ++ (typeOf ev ::
      (writeVarint (lenU64 (payloadOf ev)) ++ payloadOf ev)) := by
  simp [record, typeOf, payloadOf]

theorem short_of_fits {bs : Bytes} (fits : bs.length ≤ maxRecordLen) : bs.length < 2 ^ 64 :=
  Nat.lt_of_le_of_lt fits (by decide)

theorem readVarint_front (n : UInt64) (rest : Bytes) :
    readVarint (writeVarint n ++ rest) = .ok (n, rest) :=
  readVarint_decodes n rest

theorem readExact_front (bs rest : Bytes) (n : Nat) (length : n = bs.length) :
    readExact n (bs ++ rest) = .ok (bs, rest) := by
  subst length
  exact readExact_decodes bs rest

theorem nextRaw_record (r : EvlogReader) (lastTs : UInt64) (ev : Event) (more : Bytes)
    (unread : r.rest = record lastTs ev ++ more) (fits : (payloadOf ev).length ≤ maxRecordLen) :
    r.nextRaw =
      (.ok (some { ty := typeOf ev, tsUs := clockAfter r.lastTs lastTs ev, payload := payloadOf ev }),
        { r with rest := more, lastTs := clockAfter r.lastTs lastTs ev }) := by
  have length := lenU64_toNat (payloadOf ev) (short_of_fits fits)
  have within : ¬ maxRecordLen < (lenU64 (payloadOf ev)).toNat := by omega
  unfold EvlogReader.nextRaw
  rw [unread, record_eq, List.append_assoc, readVarint_front]
  simp only [List.cons_append, readByte, List.append_assoc, readVarint_front, if_neg within,
    readExact_front _ _ _ length]
  rfl

theorem nextRaw_oversized (r : EvlogReader) (lastTs : UInt64) (ev : Event) (more : Bytes)
    (unread : r.rest = record lastTs ev ++ more) (short : (payloadOf ev).length < 2 ^ 64)
    (oversized : maxRecordLen < (payloadOf ev).length) :
    r.nextRaw.1 = .error (.recordTooLong (payloadOf ev).length) := by
  have length := lenU64_toNat (payloadOf ev) short
  unfold EvlogReader.nextRaw
  rw [unread, record_eq, List.append_assoc, readVarint_front]
  simp only [List.cons_append, readByte, List.append_assoc, readVarint_front, length,
    if_pos oversized]

/-- A cut anywhere inside a record: in a varint, before the type byte or in the payload. -/
theorem nextRaw_torn (r : EvlogReader) (lastTs : UInt64) (ev : Event)
    (cut : r.rest <+: record lastTs ev) (torn : r.rest.length < (record lastTs ev).length)
    (fits : (payloadOf ev).length ≤ maxRecordLen) : r.nextRaw.1 = .ok none := by
  have length := lenU64_toNat (payloadOf ev) (short_of_fits fits)
  have within : ¬ maxRecordLen < (lenU64 (payloadOf ev)).toNat := by omega
  rw [record_eq] at cut torn
  unfold EvlogReader.nextRaw
  rcases proper_prefix_append cut torn with ⟨inDelta, short⟩ | ⟨rest, unread, cut, torn⟩
  · have starved : readVarint r.rest = _ := readVarint_starves _ _ inDelta short
    rw [starved]
  rw [unread, readVarint_front]
  cases rest with
  | nil => rfl
  | cons ty rest =>
    obtain ⟨rfl, inner⟩ := List.cons_prefix_cons.mp cut
    simp only [readByte]
    rcases proper_prefix_append inner (Nat.lt_of_succ_lt_succ torn) with ⟨inLength, short⟩ | ⟨rest, rfl, cut, torn⟩
    · have starved : readVarint rest = _ := readVarint_starves _ _ inLength short
      rw [starved]
    have starved : readExact (lenU64 (payloadOf ev)).toNat rest = .error .unexpectedEof := by
      rw [length]
      exact readExact_starves _ _ cut torn
    simp only [readVarint_front, if_neg within, starved]

/-- Reading past a whole record. -/
theorem nextEvent_record (r : EvlogReader) (lastTs : UInt64) (ev : Event) (more : Bytes)
    (unread : r.rest = record lastTs ev ++ more) (fits : (payloadOf ev).length ≤ maxRecordLen) :
    r.nextEvent = (.ok (some (ev.retime (clockAfter r.lastTs lastTs ev))),
      { r with rest := more, lastTs := clockAfter r.lastTs lastTs ev }) := by
  rw [EvlogReader.nextEvent_eq, nextRaw_record r lastTs ev more unread fits]
  simp only [decodePayload_payloadOf _ ev (short_of_fits fits)]

/-! ## Record sequences -/

/-- The events a reader whose clock stands at `clock` rebuilds from the records
of `evs`, written after an event stamped `lastTs`. -/
def reread : UInt64 → UInt64 → List Event → List Event
  | _, _, [] => []
  | clock, lastTs, ev :: rest =>
    let now := clockAfter clock lastTs ev
    ev.retime now :: reread now ev.tsUs rest

/-- The clocks of those records. -/
def clocks : UInt64 → UInt64 → List Event → List UInt64
  | _, _, [] => []
  | clock, lastTs, ev :: rest =>
    let now := clockAfter clock lastTs ev
    now :: clocks now ev.tsUs rest

@[simp] theorem reread_length (clock lastTs : UInt64) (evs : List Event) :
    (reread clock lastTs evs).length = evs.length := by
  induction evs generalizing clock lastTs with
  | nil => rfl
  | cons ev rest ih => simp [reread, ih]

@[simp] theorem clocks_length (clock lastTs : UInt64) (evs : List Event) :
    (clocks clock lastTs evs).length = evs.length := by
  induction evs generalizing clock lastTs with
  | nil => rfl
  | cons ev rest ih => simp [clocks, ih]

/-- The clock at the end of the records. -/
def finalClock : UInt64 → UInt64 → List Event → UInt64
  | clock, _, [] => clock
  | clock, lastTs, ev :: rest => finalClock (clockAfter clock lastTs ev) ev.tsUs rest

/-- Records in front of any bytes are replayed first. -/
theorem replay_records (evs : List Event) (r : EvlogReader) (lastTs : UInt64) (more : Bytes)
    (unread : r.rest = records lastTs evs ++ more)
    (fits : ∀ ev ∈ evs, (payloadOf ev).length ≤ maxRecordLen) :
    r.replay =
      (reread r.lastTs lastTs evs ++
          { r with rest := more, lastTs := finalClock r.lastTs lastTs evs }.replay.1,
        { r with rest := more, lastTs := finalClock r.lastTs lastTs evs }.replay.2) := by
  induction evs generalizing r lastTs with
  | nil =>
    have same : ({ r with rest := more, lastTs := finalClock r.lastTs lastTs [] }
      : EvlogReader) = r := by
      cases r
      simp_all [records, finalClock]
    rw [same]
    rfl
  | cons ev rest ih =>
    rw [records, List.append_assoc] at unread
    rw [EvlogReader.replay_eq, nextEvent_record r lastTs ev _ unread (fits ev List.mem_cons_self)]
    dsimp only
    rw [ih _ ev.tsUs rfl (fun e member => fits e (List.mem_cons_of_mem ev member))]
    rfl

/-- Raw records carry the reader's clock. -/
theorem rawReplay_records (evs : List Event) (r : EvlogReader) (lastTs : UInt64)
    (unread : r.rest = records lastTs evs)
    (fits : ∀ ev ∈ evs, (payloadOf ev).length ≤ maxRecordLen) :
    r.rawReplay.1.map RawRecord.tsUs = clocks r.lastTs lastTs evs := by
  induction evs generalizing r lastTs with
  | nil =>
    have ended := r.nextRaw_empty unread
    rw [EvlogReader.rawReplay_eq]
    split <;> simp_all [clocks]
  | cons ev rest ih =>
    rw [EvlogReader.rawReplay_eq, nextRaw_record r lastTs ev _ unread (fits ev List.mem_cons_self)]
    dsimp only
    rw [List.map_cons, ih _ ev.tsUs rfl (fun e member => fits e (List.mem_cons_of_mem ev member))]
    rfl

/-- Reading stops at a record the reader refuses. -/
theorem rawReplay_oversized (evs : List Event) (r : EvlogReader) (lastTs : UInt64)
    (unread : r.rest = records lastTs evs) (short : ∀ ev ∈ evs, (payloadOf ev).length < 2 ^ 64)
    (oversized : ∃ ev ∈ evs, maxRecordLen < (payloadOf ev).length) :
    r.rawReplay.1.length < evs.length := by
  induction evs generalizing r lastTs with
  | nil =>
    obtain ⟨ev, member, _⟩ := oversized
    cases member
  | cons ev rest ih =>
    by_cases fits : (payloadOf ev).length ≤ maxRecordLen
    · rw [EvlogReader.rawReplay_eq, nextRaw_record r lastTs ev _ unread fits]
      have later : ∃ e ∈ rest, maxRecordLen < (payloadOf e).length := by
        obtain ⟨e, member, large⟩ := oversized
        rcases List.mem_cons.mp member with rfl | member
        · omega
        · exact ⟨e, member, large⟩
      exact Nat.succ_lt_succ
        (ih _ ev.tsUs rfl (fun e member => short e (List.mem_cons_of_mem ev member)) later)
    · have refused := nextRaw_oversized r lastTs ev _ unread (short ev List.mem_cons_self)
        (Nat.lt_of_not_le fits)
      rw [EvlogReader.rawReplay_eq]
      split <;> simp_all

/-- Replaying a log that holds a refused record ends in an error. -/
theorem replay_oversized (evs : List Event) (r : EvlogReader) (lastTs : UInt64) (more : Bytes)
    (unread : r.rest = records lastTs evs ++ more)
    (short : ∀ ev ∈ evs, (payloadOf ev).length < 2 ^ 64)
    (oversized : ∃ ev ∈ evs, maxRecordLen < (payloadOf ev).length) : r.replay.2 ≠ .ok () := by
  induction evs generalizing r lastTs with
  | nil =>
    obtain ⟨ev, member, _⟩ := oversized
    cases member
  | cons ev rest ih =>
    rw [records, List.append_assoc] at unread
    by_cases fits : (payloadOf ev).length ≤ maxRecordLen
    · rw [EvlogReader.replay_eq, nextEvent_record r lastTs ev _ unread fits]
      have later : ∃ e ∈ rest, maxRecordLen < (payloadOf e).length := by
        obtain ⟨e, member, large⟩ := oversized
        rcases List.mem_cons.mp member with rfl | member
        · omega
        · exact ⟨e, member, large⟩
      exact ih _ ev.tsUs rfl (fun e member => short e (List.mem_cons_of_mem ev member)) later
    · have refused := nextRaw_oversized r lastTs ev _ unread (short ev List.mem_cons_self)
        (Nat.lt_of_not_le fits)
      have failed : r.nextEvent.1 = .error (.recordTooLong (payloadOf ev).length) := by
        rw [EvlogReader.nextEvent_eq]
        split <;> simp_all
      rw [EvlogReader.replay_eq]
      split <;> simp_all

/-! ## Sessions -/

theorem new_header (tz : Int32) (body : Bytes) :
    ∃ offset, EvlogReader.new (header tz ++ body) =
      { rest := body, lastTs := 0, tzOffsetSecs := offset } := by
  have front : (header tz ++ body).take 4 = magic := by
    simp [header, magic]
  have tail : (header tz ++ body).drop 12 = body := by
    rw [← header_length tz, List.drop_left]
  unfold EvlogReader.new
  rw [if_pos front, tail]
  exact ⟨_, rfl⟩

end Sipmon.Guarantees.EvlogRecords
