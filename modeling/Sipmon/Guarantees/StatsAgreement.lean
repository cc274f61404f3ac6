import Sipmon.Guarantees.EvlogLite
import Sipmon.Guarantees.EvlogRecords
import Sipmon.Source.EvStats

/-!
# Live and file statistics

A written record adds to the statistics what its event adds when it is fed
directly, so a scanned file leaves the accumulator where the live feed left it.
-/
namespace Sipmon.Guarantees.StatsAgreement
open Lib.ByteReader Source Source.Evlog EvlogPayloads EvlogRecords EvlogLite

/-- The framed record a reader in step with the writer returns for an event. -/
def rawOf (ev : Event) : RawRecord := { ty := typeOf ev, tsUs := ev.tsUs, payload := payloadOf ev }

/-- A record reads as its event: the fully decoded kinds by the round trip, the
others by what the skipping decoders see. -/
theorem ingestRecord_rawOf (acc : StatsAcc) (ev : Event) (short : (payloadOf ev).length < 2 ^ 64) :
    acc.ingestRecord (rawOf ev) = acc.ingest ev := by
  have decoded := decodePayload_payloadOf ev.tsUs ev short
  rw [Event.retime_tsUs] at decoded
  cases ev with
  | sipMsg e =>
    change acc.orSkip ((decodePayload 1 _ _).toOption.map acc.ingest) = _
    exact congrArg (fun ev => acc.orSkip (ev.toOption.map acc.ingest)) decoded
  | call e =>
    change acc.orSkip ((decodePayload 3 _ _).toOption.map acc.ingest) = _
    exact congrArg (fun ev => acc.orSkip (ev.toOption.map acc.ingest)) decoded
  | streamSnap e =>
    change acc.orSkip ((parseStreamSnapLite (encodeStreamSnap e)).map _) = _
    rw [parseStreamSnapLite_encode e short]
    rfl
  | rtcpRtt e =>
    change acc.orSkip ((parseRtcpRttMs (encodeRtcpRtt e)).map _) = _
    rw [parseRtcpRttMs_encode e short]
    rfl
  | txn e => rfl
  | healthBucket e => rfl
  | error e => rfl
  | diag e => rfl

/-- A reader in step with the writer returns the records one by one, to a clean end. -/
theorem rawReplay_sorted (evs : List Event) (r : EvlogReader)
    (sorted : (r.lastTs :: evs.map Event.tsUs).Pairwise (· ≤ ·))
    (unread : r.rest = records r.lastTs evs)
    (fits : ∀ ev ∈ evs, (payloadOf ev).length ≤ maxRecordLen) :
    r.rawReplay = (evs.map rawOf, .ok ()) := by
  induction evs generalizing r with
  | nil =>
    have ended := r.nextRaw_empty unread
    rw [EvlogReader.rawReplay_eq]
    split <;> simp_all
  | cons ev rest ih =>
    rw [List.map_cons, List.pairwise_cons] at sorted
    have now : clockAfter r.lastTs r.lastTs ev = ev.tsUs :=
      satAdd_satSub (sorted.1 ev.tsUs List.mem_cons_self)
    rw [EvlogReader.rawReplay_eq, nextRaw_record r r.lastTs ev _ unread (fits ev List.mem_cons_self),
      now]
    dsimp only
    rw [ih { r with rest := records ev.tsUs rest, lastTs := ev.tsUs } sorted.2 rfl
      fun e member => fits e (List.mem_cons_of_mem ev member)]
    rfl

theorem foldl_rawOf (evs : List Event) (acc : StatsAcc)
    (short : ∀ ev ∈ evs, (payloadOf ev).length < 2 ^ 64) :
    (evs.map rawOf).foldl StatsAcc.ingestRecord acc = evs.foldl StatsAcc.ingest acc := by
  induction evs generalizing acc with
  | nil => rfl
  | cons ev rest ih =>
    rw [List.map_cons, List.foldl_cons, List.foldl_cons, ingestRecord_rawOf acc ev
      (short ev List.mem_cons_self)]
    exact ih _ fun e member => short e (List.mem_cons_of_mem ev member)

/-- A file in order of time scans to what its events say. -/
theorem scan_sorted (tz : Int32) {evs : List Event} (sorted : (evs.map Event.tsUs).Pairwise (· ≤ ·))
    (fits : ∀ ev ∈ evs, (payloadOf ev).length ≤ maxRecordLen) :
    StatsAcc.scanRecords (.new (sessionImage tz evs)) = evs.foldl StatsAcc.ingest {} := by
  obtain ⟨offset, reader⟩ := new_header tz (records 0 evs)
  have ordered : (0 :: evs.map Event.tsUs).Pairwise (· ≤ ·) :=
    List.pairwise_cons.mpr ⟨fun _ _ => UInt64.zero_le, sorted⟩
  have replayed := rawReplay_sorted evs { rest := records 0 evs, lastTs := 0, tzOffsetSecs := offset }
    ordered rfl fits
  rw [sessionImage_eq, reader, StatsAcc.scanRecords, replayed]
  exact foldl_rawOf evs {} fun ev member => short_of_fits (fits ev member)

/-- Scanning the file a session wrote reaches the accumulator that the events,
fed one by one, reach. -/
theorem scan_session (tz : Int32) (evs : List Event) (sorted : (evs.map Event.tsUs).Pairwise (· ≤ ·))
    (fits : ∀ ev ∈ evs, (payloadOf ev).length ≤ maxRecordLen) :
    StatsAcc.scanRecords (.new (sessionImage tz evs)) = evs.foldl StatsAcc.ingest {} :=
  scan_sorted tz sorted fits

/-- A snapshot and a round trip, which the scan reads with decoders of their own, and a diagnostic. -/
theorem scan_session_two :
    StatsAcc.scanRecords (.new (sessionImage 3600 [snapAt 7, rttAt 8, diagAt 9])) =
      [snapAt 7, rttAt 8, diagAt 9].foldl StatsAcc.ingest {} :=
  scan_session 3600 [snapAt 7, rttAt 8, diagAt 9] (by decide) (by decide +kernel)

end Sipmon.Guarantees.StatsAgreement
