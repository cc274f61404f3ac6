import Sipmon.Guarantees.EvlogRecords

/-!
# Crash-consistent round trip

A log cut at any byte replays exactly the events whose records survived the cut.
-/
namespace Sipmon.Guarantees.EvlogRoundTrip
open Lib.ByteReader Source Source.Evlog EvlogPayloads EvlogRecords

/-- Where the record of event `i` ends in the image of its session. -/
def recordEnd (tz : Int32) (evs : List Event) (i : Nat) : Nat :=
  (sessionImage tz (evs.take (i + 1))).length

/-- A reader in step with the writer rebuilds forward-running events unchanged. -/
theorem reread_sorted (evs : List Event) (lastTs : UInt64)
    (sorted : (lastTs :: evs.map Event.tsUs).Pairwise (· ≤ ·)) : reread lastTs lastTs evs = evs := by
  induction evs generalizing lastTs with
  | nil => rfl
  | cons ev rest ih =>
    rw [List.map_cons, List.pairwise_cons] at sorted
    have now : clockAfter lastTs lastTs ev = ev.tsUs :=
      satAdd_satSub (sorted.1 ev.tsUs List.mem_cons_self)
    simp only [reread, now, Event.retime_tsUs, ih _ sorted.2]

theorem records_take_length_succ (lastTs : UInt64) (ev : Event) (rest : List Event) (i : Nat) :
    (records lastTs ((ev :: rest).take (i + 1))).length =
      (record lastTs ev).length + (records ev.tsUs (rest.take i)).length := by
  rw [List.take_succ_cons, records, List.length_append]

/-- A cut record sequence replays its whole records, whatever the reader's clock. -/
theorem replay_cut (evs : List Event) (r : EvlogReader) (lastTs : UInt64) (budget : Nat)
    (unread : r.rest = (records lastTs evs).take budget)
    (fits : ∀ ev ∈ evs, (payloadOf ev).length ≤ maxRecordLen) :
    ∃ n, (∀ i < evs.length, i < n ↔ (records lastTs (evs.take (i + 1))).length ≤ budget) ∧
      r.replay = (reread r.lastTs lastTs (evs.take n), .ok ()) := by
  induction evs generalizing r lastTs budget with
  | nil =>
    refine ⟨0, by simp, ?_⟩
    exact r.replay_end (r.nextRaw_empty (by simpa [records] using unread))
  | cons ev rest ih =>
    have first := fits ev List.mem_cons_self
    have later := fun e member => fits e (List.mem_cons_of_mem ev member)
    rw [records, List.take_append] at unread
    by_cases whole : (record lastTs ev).length ≤ budget
    · -- the first record is complete; the rest of the budget goes to the others
      rw [List.take_of_length_le whole] at unread
      obtain ⟨n, inside, replayed⟩ := ih
        { r with rest := (records ev.tsUs rest).take (budget - (record lastTs ev).length),
                 lastTs := clockAfter r.lastTs lastTs ev } ev.tsUs _ rfl later
      refine ⟨n + 1, ?_, ?_⟩
      · intro i bound
        rw [records_take_length_succ]
        cases i with
        | zero => simpa [records] using whole
        | succ i =>
          have earlier := inside i (Nat.lt_of_succ_lt_succ bound)
          rw [Nat.succ_lt_succ_iff, earlier]
          omega
      · rw [EvlogReader.replay_eq, nextEvent_record r lastTs ev _ unread first]
        simp only [replayed, List.take_succ_cons, reread]
    · -- the cut falls inside the first record
      have nothing : budget - (record lastTs ev).length = 0 := by omega
      rw [nothing, List.take_zero, List.append_nil] at unread
      refine ⟨0, ?_, ?_⟩
      · intro i _
        rw [records_take_length_succ]
        omega
      · refine r.replay_end (nextRaw_torn r lastTs ev ?_ ?_ first)
        · rw [unread]
          exact List.take_prefix _ _
        · rw [unread, List.length_take]
          omega

/-- Every event of a session, of all eight kinds and with any field values,
survives a cut exactly when its record lies wholly before it. -/
theorem replay_cut_session (tz : Int32) (evs : List Event) (cut : Nat)
    (sorted : (evs.map Event.tsUs).Pairwise (· ≤ ·))
    (fits : ∀ ev ∈ evs, (payloadOf ev).length ≤ maxRecordLen) (headerKept : 12 ≤ cut) :
    ∃ n, (∀ i < evs.length, i < n ↔ recordEnd tz evs i ≤ cut) ∧
      replayFile ((sessionImage tz evs).take cut) = (evs.take n, .ok ()) := by
  have image : (sessionImage tz evs).take cut = header tz ++ (records 0 evs).take (cut - 12) := by
    rw [sessionImage_eq, List.take_append, header_length,
      List.take_of_length_le (by rw [header_length]; exact headerKept)]
  obtain ⟨offset, reader⟩ := new_header tz ((records 0 evs).take (cut - 12))
  obtain ⟨n, inside, replayed⟩ := replay_cut evs
    { rest := (records 0 evs).take (cut - 12), lastTs := 0, tzOffsetSecs := offset } 0 _ rfl fits
  refine ⟨n, ?_, ?_⟩
  · intro i bound
    rw [inside i bound, recordEnd, sessionImage_eq, List.length_append, header_length]
    omega
  · have ordered : (0 :: (evs.take n).map Event.tsUs).Pairwise (· ≤ ·) := by
      rw [List.pairwise_cons, List.map_take]
      exact ⟨fun t _ => UInt64.zero_le, sorted.sublist (List.take_sublist _ _)⟩
    rw [replayFile, image, reader, replayed]
    exact congrArg (·, _) (reread_sorted _ 0 ordered)

/-- A cut within the third record leaves the first two events. -/
theorem replay_cut_session_two :
    replayFile ((sessionImage 3600 [snapAt 7, rttAt 8, diagAt 9]).take 130) =
      ([snapAt 7, rttAt 8], .ok ()) := by
  obtain ⟨n, inside, replayed⟩ := replay_cut_session 3600 [snapAt 7, rttAt 8, diagAt 9] 130 (by decide)
    (by decide +kernel) (by decide)
  have second : 1 < n := (inside 1 (by decide)).mpr (by decide +kernel)
  have third : ¬ 2 < n := mt (inside 2 (by decide)).mp (by decide +kernel)
  have two : n = 2 := by omega
  rw [replayed, two]
  rfl

end Sipmon.Guarantees.EvlogRoundTrip
