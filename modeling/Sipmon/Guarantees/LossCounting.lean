import Sipmon.Guarantees.LossReports
import Sipmon.Guarantees.SequenceLoss
import Sipmon.Guarantees.StreamAccounting

/-!
# Loss counted once

Three consumers turn the cumulative loss of a stream into gains over a mark: the
attribution of live streams, the session statistics and the import of snapshots.
The mark falls with the loss, so loss that climbs back is counted again. All
three counters are 64 bits wide.
-/
namespace Sipmon.Guarantees.LossCounting
open Source Lib Correlator LossReports
open StreamStages (Attends)
open Evlog (Event)
open StreamAccounting (Figure meter metered_of_few wraps_accOf accOf)
open SeizureCounts (names)
open SentCounters (sends counter_importStreamSnap counter_attributeTo)
open SequenceLoss (Arrivals ordering ordering_observe ordering_observeSequence resume)

/-! ## Imported snapshots -/

/-- A registry that imports snapshots, and the meter of what an address reports in them. -/
structure Import where
  reg : Registry
  meter : Meter ImportKey := {}

/-- The loss a snapshot reports for an address that sends the stream. -/
def reading (ip : IpAddr) (s : StreamSummary) : Option (ImportKey × Nat) :=
  if sends ip s then some (importKey s, s.lost) else none

def readings (ip : IpAddr) (snaps : List (UInt64 × StreamSummary)) : List (ImportKey × Nat) :=
  snaps.filterMap fun snap => reading ip snap.2

namespace Import

def step (ip : IpAddr) (w : Import) (snap : UInt64 × StreamSummary) : Import :=
  { reg := w.reg.importStreamSnap snap.1 snap.2
    meter := (reading ip snap.2).toList.foldl Meter.read w.meter }

/-- What a snapshot reports again of a stream that is not stored. -/
def repeated (ip : IpAddr) (w : Import) (snap : UInt64 × StreamSummary) : Nat :=
  if importKey snap.2 ∈ w.reg.importedStreams then 0
  else ((reading ip snap.2).map fun r => min r.2 (w.meter.mark r.1)).getD 0

end Import

/-- A stream that is stored is marked at what it reported last. -/
def Stored (ip : IpAddr) (w : Import) : Prop :=
  ∀ key p, w.reg.importedStreams.lookup key = some p →
    key.flow.any (fun flow => decide (flow.src.ip = ip)) = true → w.meter.mark key = p.lost

/-- Whether an import stores a summary. -/
def Keeps (reg : Registry) (s : StreamSummary) : Prop :=
  importKey s ∈ reg.importedStreams ∨ reg.importedStreams.size < reg.maxStreams

instance (reg : Registry) (s : StreamSummary) : Decidable (Keeps reg s) := instDecidableOr

theorem lookup_addImportedStream (reg : Registry) (s : StreamSummary) (key : ImportKey) :
    (reg.addImportedStream s).importedStreams.lookup key =
      if key = importKey s ∧ Keeps reg s then some s else reg.importedStreams.lookup key := by
  unfold Registry.addImportedStream
  dsimp only
  split
  · next listed =>
    have keeps : Keeps reg s := .inl listed
    dsimp only
    rw [FiniteMap.lookup_modify]
    by_cases own : key = importKey s
    · rw [if_pos own, if_pos ⟨own, keeps⟩, own]
      obtain ⟨p, present⟩ := Option.isSome_iff_exists.mp (AList.lookup_isSome.mpr listed)
      rw [present]
      rfl
    · rw [if_neg own, if_neg fun both => own both.1]
  · next absent =>
    split
    · next full =>
      have dropped : ¬ Keeps reg s := fun keeps => keeps.elim absent (Nat.not_lt.mpr full)
      rw [if_neg fun both => dropped both.2]
    · next room =>
      have keeps : Keeps reg s := .inr (Nat.lt_of_not_le room)
      dsimp only
      rw [FiniteMap.lookup_insert_iff]
      by_cases own : key = importKey s
      · rw [if_pos own, if_pos ⟨own, keeps⟩]
      · rw [if_neg own, if_neg fun both => own both.1]

theorem lookup_importStreamSnap (reg : Registry) (ts : UInt64) (s : StreamSummary) (key : ImportKey) :
    (reg.importStreamSnap ts s).importedStreams.lookup key =
      if key = importKey s ∧ Keeps reg s then some s else reg.importedStreams.lookup key := by
  unfold Registry.importStreamSnap
  dsimp only
  generalize clocked : (if reg.lastUs.getD 0 < ts then _ else reg) = r
  have same : r.importedStreams = reg.importedStreams ∧ r.maxStreams = reg.maxStreams := by
    rw [← clocked]
    split <;> exact ⟨rfl, rfl⟩
  have keeps : Keeps r s ↔ Keeps reg s := by rw [Keeps, Keeps, same.1, same.2]
  rw [← same.1]
  simp only [← keeps]
  cases s.flow with
  | none => exact lookup_addImportedStream r s key
  | some flow => exact lookup_addImportedStream r s key

/-- A snapshot gives the sender what it gains over the stored one. -/
theorem lostTx_importStreamSnap (ip : IpAddr) (reg : Registry) (ts : UInt64) (s : StreamSummary) :
    lostTx ip (reg.importStreamSnap ts s) = lostTx ip reg +
      .ofNat (((reading ip s).map fun r =>
        r.2 - ((reg.importedStreams.lookup r.1).map StreamSummary.lost).getD 0).getD 0) := by
  have given := counter_importStreamSnap .losses ip reg ts s
  refine given.trans (congrArg _ ?_)
  unfold reading
  cases sends ip s <;> rfl

theorem reading_key {ip : IpAddr} {s : StreamSummary} {r : ImportKey × Nat} (read : reading ip s = some r) :
    r = (importKey s, s.lost) := by
  unfold reading at read
  split at read
  · exact (Option.some.inj read).symm
  · cases read

theorem mark_step (ip : IpAddr) (w : Import) (snap : UInt64 × StreamSummary) {key : ImportKey}
    (sent : key.flow.any (fun flow => decide (flow.src.ip = ip)) = true) :
    (w.step ip snap).meter.mark key = if key = importKey snap.2 then snap.2.lost else w.meter.mark key := by
  unfold Import.step
  dsimp only
  cases read : reading ip snap.2 with
  | none =>
    have differs : key ≠ importKey snap.2 := by
      rintro rfl
      have from_ : reading ip snap.2 = some (importKey snap.2, snap.2.lost) := if_pos sent
      rw [read] at from_
      cases from_
    rw [if_neg differs]
    rfl
  | some r =>
    rw [reading_key read]
    exact Meter.mark_read w.meter _ key

theorem stored_step {ip : IpAddr} {w : Import} (stored : Stored ip w) (snap : UInt64 × StreamSummary) :
    Stored ip (w.step ip snap) := by
  intro key p present sent
  have found : (w.step ip snap).reg.importedStreams.lookup key = _ :=
    lookup_importStreamSnap w.reg snap.1 snap.2 key
  rw [present] at found
  rw [mark_step ip w snap sent]
  split at found
  · next kept =>
    rw [if_pos kept.1]
    exact congrArg StreamSummary.lost (Option.some.inj found).symm
  · next other =>
    have differs : key ≠ importKey snap.2 := by
      rintro rfl
      exact other ⟨rfl, .inl (AList.lookup_isSome.mp (Option.isSome_of_eq_some found.symm))⟩
    rw [if_neg differs]
    exact stored key p found.symm sent

/-- What the meter gains in one import, with what is repeated, is what the snapshot
gains over the stored one. -/
theorem counted_step {ip : IpAddr} {w : Import} (stored : Stored ip w) (snap : UInt64 × StreamSummary) :
    w.meter.counted + ((reading ip snap.2).map fun r =>
        r.2 - ((w.reg.importedStreams.lookup r.1).map StreamSummary.lost).getD 0).getD 0 =
      (w.step ip snap).meter.counted + w.repeated ip snap := by
  unfold Import.step Import.repeated
  dsimp only
  cases read : reading ip snap.2 with
  | none =>
    simp only [Option.map_none, Option.getD_none, Option.toList_none, List.foldl_nil, ite_self,
      Nat.add_zero]
  | some r =>
    have sent : (importKey snap.2).flow.any (fun flow => decide (flow.src.ip = ip)) = true := by
      by_contra other
      have missing : reading ip snap.2 = none := if_neg other
      rw [read] at missing
      cases missing
    rw [reading_key read]
    simp only [Option.map_some, Option.getD_some, Option.toList_some, List.foldl_cons, List.foldl_nil]
    have counted : (w.meter.read (importKey snap.2, snap.2.lost)).counted =
        w.meter.counted + (snap.2.lost - w.meter.mark (importKey snap.2)) := rfl
    rw [counted]
    cases present : w.reg.importedStreams.lookup (importKey snap.2) with
    | some p =>
      have listed : importKey snap.2 ∈ w.reg.importedStreams :=
        AList.lookup_isSome.mp (Option.isSome_of_eq_some present)
      rw [if_pos listed, stored _ p present sent, Option.map_some, Option.getD_some]
      omega
    | none =>
      rw [if_neg (AList.lookup_eq_none.mp present), Option.map_none, Option.getD_none]
      omega

/-- One import: the row gains what the meter gains, and what is repeated. -/
theorem lostTx_step {ip : IpAddr} {w : Import} (stored : Stored ip w) (snap : UInt64 × StreamSummary) :
    lostTx ip (w.step ip snap).reg + .ofNat w.meter.counted =
      lostTx ip w.reg + .ofNat ((w.step ip snap).meter.counted + w.repeated ip snap) := by
  have given : lostTx ip (w.step ip snap).reg = _ := lostTx_importStreamSnap ip w.reg snap.1 snap.2
  rw [given, ← counted_step stored snap, UInt64.add_assoc, ← UInt64.ofNat_add, Nat.add_comm]

/-- Snapshots imported one after the other. -/
def imported (reg : Registry) (snaps : List (UInt64 × StreamSummary)) : Registry :=
  snaps.foldl (fun reg snap => reg.importStreamSnap snap.1 snap.2) reg

theorem lostTx_foldl {ip : IpAddr} {w : Import} (stored : Stored ip w)
    (snaps : List (UInt64 × StreamSummary)) :
    lostTx ip (snaps.foldl (Import.step ip) w).reg + .ofNat w.meter.counted =
      lostTx ip w.reg + .ofNat ((snaps.foldl (Import.step ip) w).meter.counted +
        Run.total (Import.step ip) (Import.repeated ip) w snaps) := by
  induction snaps generalizing w with
  | nil => rfl
  | cons snap rest ih =>
    have first := lostTx_step stored snap
    have others := ih (stored_step stored snap)
    rw [UInt64.ofNat_add] at first others ⊢
    rw [List.foldl_cons, Run.total, UInt64.ofNat_add]
    grind

theorem foldl_step (ip : IpAddr) (w : Import) (snaps : List (UInt64 × StreamSummary)) :
    (snaps.foldl (Import.step ip) w).reg = imported w.reg snaps ∧
      (snaps.foldl (Import.step ip) w).meter = (readings ip snaps).foldl Meter.read w.meter := by
  induction snaps generalizing w with
  | nil => exact ⟨rfl, rfl⟩
  | cons snap rest ih =>
    obtain ⟨reg, meter⟩ := ih (w.step ip snap)
    have first : readings ip (snap :: rest) = (reading ip snap.2).toList ++ readings ip rest := by
      rw [readings, List.filterMap_cons]
      cases reading ip snap.2 <;> rfl
    refine ⟨reg, meter.trans ?_⟩
    rw [first, List.foldl_append]
    rfl

/-- A registry before its first import. -/
def blank (source : String) (maxCalls maxStreams maxDiagnostics : Nat) : Registry :=
  (Registry.withSource source).setCaps maxCalls maxStreams maxDiagnostics

/-- No snapshot repeats a loss of a stream that is not stored. -/
def StoresLossy (ip : IpAddr) (reg : Registry) (snaps : List (UInt64 × StreamSummary)) : Prop :=
  Run.Along (Import.step ip) (fun w snap => w.repeated ip snap = 0) { reg } snaps

instance (ip : IpAddr) (reg : Registry) (snaps : List (UInt64 × StreamSummary)) :
    Decidable (StoresLossy ip reg snaps) := Run.decidableAlong _ _ _

section Fresh

variable (ip : IpAddr) (source : String) (maxCalls maxStreams maxDiagnostics : Nat)
  (snaps : List (UInt64 × StreamSummary))

/-- All that the snapshots add to the row: what they report, and once more what they repeat. -/
def charged : Nat :=
  (Meter.run (readings ip snaps)).counted +
    Run.total (Import.step ip) (Import.repeated ip)
      { reg := blank source maxCalls maxStreams maxDiagnostics } snaps

/-- The row counts what is charged, modulo 2^64. -/
theorem lostTx_imported :
    lostTx ip (imported (blank source maxCalls maxStreams maxDiagnostics) snaps) =
      .ofNat (charged ip source maxCalls maxStreams maxDiagnostics snaps) := by
  have stored : Stored ip { reg := blank source maxCalls maxStreams maxDiagnostics } := by
    intro key p present
    cases present
  have balance := lostTx_foldl stored snaps
  obtain ⟨reg, meter⟩ := foldl_step ip { reg := blank source maxCalls maxStreams maxDiagnostics } snaps
  have none_ : lostTx ip (blank source maxCalls maxStreams maxDiagnostics) = 0 := rfl
  rw [reg, meter, none_, UInt64.zero_add] at balance
  exact (UInt64.add_zero _).symm.trans balance

theorem between_imported_iff
    (fits : charged ip source maxCalls maxStreams maxDiagnostics snaps < 2 ^ 64) :
    Meter.Between (lostTx ip (imported (blank source maxCalls maxStreams maxDiagnostics) snaps)).toNat
        (readings ip snaps) ↔
      Meter.GainsFromPeak (readings ip snaps) ∧
        StoresLossy ip (blank source maxCalls maxStreams maxDiagnostics) snaps := by
  have least := Meter.marks_le_counted (readings ip snaps)
  have law := Meter.counted_run (readings ip snaps)
  rw [lostTx_imported, UInt64.toNat_ofNat_of_lt' fits, StoresLossy, ← Run.total_eq_zero,
    ← Meter.rebounds_eq_zero, Meter.Between, charged]
  omega

end Fresh

/-! ## All three consumers -/

/-- Loss is counted once exactly where no stream gains loss from below the highest
it has reported: in the row of a sender over every run that spares the row, right
after every due tick with the current losses; in the session totals while 2^32
Call-IDs suffice; and over imported snapshots, where moreover no snapshot repeats a
loss of a stream that the import has not stored. What each of the three counts has
to fit into its 64 bits. -/
theorem loss_counted_once_iff (ip : IpAddr) :
    (∀ (iter : Iteration) (config : Config) (source : String) (inputs : List (Iteration × Op)),
        Run.Along step (SparesRow ip) (.new iter config source) inputs →
        (Meter.run (reports ip iter config source inputs)).counted < 2 ^ 64 →
          (Meter.Between (lostTx ip ((Correlator.new iter config source).run inputs).reg).toNat
              (reports ip iter config source inputs) ↔
            Meter.GainsFromPeak (reports ip iter config source inputs)) ∧
          ∀ (before : List (Iteration × Op)) (pass : Iteration) (ts : UInt64),
            inputs = before ++ [(pass, .flush ts)] →
            tickerDue ((Correlator.new iter config source).run before).lastIpattrUs ts 1000000 = true →
            current ip ((Correlator.new iter config source).run inputs).reg ≤
              (lostTx ip ((Correlator.new iter config source).run inputs).reg).toNat) ∧
      (∀ evs : List Event, (names evs).toFinset.card ≤ 2 ^ 32 → (meter .lost evs).counted < 2 ^ 64 →
        (Meter.Between (accOf evs).all.lost.toNat (StreamAccounting.readings .lost evs) ↔
          Meter.GainsFromPeak (StreamAccounting.readings .lost evs))) ∧
      ∀ (source : String) (maxCalls maxStreams maxDiagnostics : Nat)
          (snaps : List (UInt64 × StreamSummary)),
        charged ip source maxCalls maxStreams maxDiagnostics snaps < 2 ^ 64 →
          (Meter.Between (lostTx ip (imported (blank source maxCalls maxStreams maxDiagnostics) snaps)).toNat
              (readings ip snaps) ↔
            Meter.GainsFromPeak (readings ip snaps) ∧
              StoresLossy ip (blank source maxCalls maxStreams maxDiagnostics) snaps) := by
  refine ⟨fun iter config source inputs spared fits => ?_, fun evs few fits => ?_, ?_⟩
  · have row : (lostTx ip ((Correlator.new iter config source).run inputs).reg).toNat =
        (Meter.run (reports ip iter config source inputs)).counted := by
      rw [lostTx_run ip iter config source inputs spared, UInt64.toNat_ofNat_of_lt' fits]
    rw [row]
    refine ⟨Meter.between_counted_iff _, ?_⟩
    rintro before pass ts rfl due
    exact current_le_counted ip iter config source before pass ts spared due
  · have exact_ : (accOf evs).all.lost.toNat = (meter .lost evs).counted := by
      have wraps := (wraps_accOf evs .lost).1
      rw [(metered_of_few evs few).counted .lost] at wraps
      exact wraps.eq_of_lt fits
    rw [exact_]
    exact Meter.between_counted_iff _
  · exact between_imported_iff ip

/-! ## Loss that climbs back -/

theorem ordering_stream (s : RtpStream) (ts : UInt64) (header : RtpHeader) (len : Nat) :
    ordering (s.observe ts header len).acc = ordering (s.acc.observeSequence header.sequenceNumber) := by
  unfold RtpStream.observe
  dsimp only
  rw [ordering_observe]
  refine ordering_observeSequence ?_ _
  split
  · unfold RtpStream.applyClockRate MediaStatsAccumulator.setClockRate
    split
    · rfl
    · split <;> rfl
  · rfl

/-- The sender of a stream, its mark and what its sequence numbers have come to. -/
def progress (s : RtpStream) : Flow5Tuple × Nat × Arrivals :=
  (s.flow, s.ipattrLost, ordering s.acc)

theorem attends_progress : Attends progress (Steady progress) := by
  have clocked : ∀ (s : RtpStream) (rate : UInt32), progress (s.applyClockRate rate) = progress s := by
    intro s rate
    unfold RtpStream.applyClockRate MediaStatsAccumulator.setClockRate
    split
    · rfl
    · split <;> rfl
  refine attends_steady (fun neg s => ?_) (fun s ts => ?_) (fun _ _ _ => rfl) fun _ => rfl
  · unfold Correlator.reclock
    split
    · split
      · exact clocked s _
      · rfl
    · rfl
  · unfold RtpStream.sample
    split <;> rfl

open CallIsolation (offer mediaFlow)

/-- The party of the call at `10.0.0.1`, and its stream. -/
def sender : IpAddr := (mediaFlow 1).src.ip
def stream : StreamKey := { flow := mediaFlow 1, ssrc := 7 }

def arrival (ts : UInt64) (seq : UInt16) : Iteration × Op :=
  (.stored, .rtp ts (mediaFlow 1) ⟨2, 0, seq, 160, 7⟩ 160 .direct)

theorem progress_arrival {c : Correlator} {flow : Flow5Tuple} {mark : Nat}
    {o : Arrivals}
    (known : (c.reg.streams.lookup stream).map progress = some (flow, mark, o)) (ts : UInt64) (seq : UInt16) :
    ((c.step (arrival ts seq)).reg.streams.lookup stream).map progress =
        some (flow, mark, ordering ((resume o).observeSequence seq)) ∧
      lostTx sender (c.step (arrival ts seq)).reg = lostTx sender c.reg := by
  obtain ⟨s, found, same⟩ := Option.map_eq_some_iff.mp known
  have stepped : c.step (arrival ts seq) =
      c.observeExistingRtp ts ⟨2, 0, seq, 160, 7⟩ 160 stream s := by
    have there : c.reg.streams.lookup { flow := mediaFlow 1, ssrc := 7 } = some s := found
    simp only [arrival, step, ingestRtp, there]
    rfl
  have steady := attends_progress.observeExistingRtp c ts ⟨2, 0, seq, 160, 7⟩ 160 stream s
  rw [stepped]
  refine ⟨(steady.stand stream).trans ?_, steady.rows sender⟩
  have updated := FiniteMap.lookup_modify stream stream (·.observe ts ⟨2, 0, seq, 160, 7⟩ 160) c.reg.streams
  rw [if_pos rfl, found] at updated
  obtain ⟨flows, rest⟩ := Prod.mk.inj same
  obtain ⟨marks, orders⟩ := Prod.mk.inj rest
  have seen := observe_keeps s ts ⟨2, 0, seq, 160, 7⟩ 160
  have resumed : ordering (resume o) = ordering s.acc := orders.symm
  have ordered := (ordering_stream s ts ⟨2, 0, seq, 160, 7⟩ 160).trans
    (ordering_observeSequence resumed.symm seq)
  refine (congrArg (Option.map progress) updated).trans ?_
  rw [Option.map_some, Option.map_some, progress, seen.1, seen.2, ordered, flows, marks]

theorem progress_tick {c : Correlator} {flow : Flow5Tuple} {mark : Nat}
    {o : Arrivals}
    (known : (c.reg.streams.lookup stream).map progress = some (flow, mark, o)) {ts : UInt64}
    (sent : flow.src.ip = sender) (only : c.reg.streams.keys = [stream])
    (due : tickerDue c.lastIpattrUs ts 1000000 = true)
    (idle : tickerDue (c.ipattrTick .stored ts).lastFlushUs ts flushPeriodUs = false) :
    ((c.step (.stored, .flush ts)).reg.streams.lookup stream).map progress =
        some (flow, (resume o).snapshot.lostPackets, o) ∧
      lostTx sender (c.step (.stored, .flush ts)).reg =
        lostTx sender c.reg + .ofNat ((resume o).snapshot.lostPackets - mark) := by
  obtain ⟨s, found, same⟩ := Option.map_eq_some_iff.mp known
  obtain ⟨flows, rest⟩ := Prod.mk.inj same
  obtain ⟨marks, orders⟩ := Prod.mk.inj rest
  have lost : loss s = (resume o).snapshot.lostPackets := by
    rw [← orders]
    rfl
  have ticked : (c.step (.stored, .flush ts)).reg = c.reg.flushStreamIpattr stream := by
    have attributed : (c.attributeIpStats .stored).reg = c.reg.flushStreamIpattr stream := by
      unfold attributeIpStats Iteration.stored
      rw [only]
      rfl
    have flushed : (c.step (.stored, .flush ts)).reg = (c.ipattrTick .stored ts).reg := by
      unfold step maybePeriodicFlush
      simp only [idle, Bool.or_false, Bool.false_eq_true, if_false]
      split <;> rfl
    rw [flushed, ipattrTick_reg, if_pos due, attributed]
  rw [ticked]
  constructor
  · have marked := StreamStages.lookup_flushStreamIpattr c.reg stream stream
    rw [if_pos rfl, found] at marked
    rw [marked, Option.map_some, Option.map_some, ← lost, ← flows, ← orders]
    rfl
  · have given := counter_attributeTo .losses c.reg.ipstats (Registry.ipAttr s) sender
    have from_ : (Registry.ipAttr s).srcIp = sender := by
      rw [← sent, ← flows]
      rfl
    have gained : SentCounters.Sent.losses.given (Registry.ipAttr s) =
        .ofNat ((resume o).snapshot.lostPackets - mark) := by
      rw [← lost, ← marks]
      rfl
    rw [if_pos from_, gained] at given
    unfold Registry.flushStreamIpattr
    rw [found]
    exact given

/-- A call, and the first packet of its stream once the ticker runs. -/
def opening : List (Iteration × Op) :=
  [(.stored, .sip (offer "a" "1")), (.stored, .flush 0), arrival 100000 1]

/-- Packet 2 comes late, between two ticks. -/
def recovering : List (Iteration × Op) :=
  [arrival 200000 3, (.stored, .flush 1000000), arrival 1100000 2, (.stored, .flush 2000000)]

/-- Packet 4 never comes. -/
def climbing : List (Iteration × Op) := recovering ++ [arrival 2100000 5, (.stored, .flush 3000000)]

def watch (inputs : List (Iteration × Op)) : Monitor :=
  inputs.foldl (Monitor.step sender) { c := .new .stored {} "eth0" }

/-- What is known of the only stream, of its row and of what it has reported. -/
structure Known (w : Monitor) (mark : Nat) (o : Arrivals)
    (row : Nat) (reported : List Nat) : Prop where
  only : w.c.reg.streams.keys = [stream]
  progress : (w.c.reg.streams.lookup stream).map progress = some (mediaFlow 1, mark, o)
  row : lostTx sender w.c.reg = .ofNat row
  reports : w.reports = reported.map fun n => ((stream, 1), n)
  born : w.born stream = 1

theorem Known.arrival {w : Monitor} {mark row : Nat} {o : Arrivals}
    {reported : List Nat} (known : Known w mark o row reported) (ts : UInt64) (seq : UInt16)
    (only : (w.step sender (arrival ts seq)).c.reg.streams.keys = [stream]) :
    Known (w.step sender (arrival ts seq)) mark (ordering ((resume o).observeSequence seq)) row reported := by
  obtain ⟨progressed, same⟩ := progress_arrival known.progress ts seq
  obtain ⟨s, found, _⟩ := Option.map_eq_some_iff.mp known.progress
  have there : w.c.reg.streams.lookup { flow := mediaFlow 1, ssrc := 7 } = some s := found
  have stepped : w.c.step (LossCounting.arrival ts seq) =
      w.c.observeExistingRtp ts ⟨2, 0, seq, 160, 7⟩ 160 stream s := by
    simp only [LossCounting.arrival, step, ingestRtp, there]
    rfl
  have silent : w.heard sender (LossCounting.arrival ts seq) = [] := by
    have nothing : reporting sender w.c (LossCounting.arrival ts seq) = [] := by
      refine reporting_eq_nil rfl rfl fun k listed => ?_
      rw [stepped]
      exact mem_observeExistingRtp w.c ts _ 160 stream s listed
    rw [Monitor.heard, nothing]
    rfl
  have closed : opens w.c (LossCounting.arrival ts seq).2 = none := by
    simp only [opens, LossCounting.arrival, there, Option.isNone_some, Bool.false_and,
      Bool.false_eq_true, if_false]
  refine ⟨only, progressed, same.trans known.row, ?_, ?_⟩
  · have kept : (w.step sender (LossCounting.arrival ts seq)).reports =
        w.reports ++ w.heard sender (LossCounting.arrival ts seq) := rfl
    rw [kept, silent, List.append_nil, known.reports]
  · unfold Monitor.step
    dsimp only
    rw [closed, if_neg (Option.some_ne_none stream).symm, known.born]

theorem Known.tick {w : Monitor} {mark row : Nat} {o : Arrivals}
    {reported : List Nat} (known : Known w mark o row reported) (ts : UInt64)
    (only : (w.step sender (.stored, .flush ts)).c.reg.streams.keys = [stream])
    (due : tickerDue w.c.lastIpattrUs ts 1000000 = true)
    (idle : tickerDue (w.c.ipattrTick .stored ts).lastFlushUs ts flushPeriodUs = false) :
    Known (w.step sender (.stored, .flush ts)) (resume o).snapshot.lostPackets o
      (row + ((resume o).snapshot.lostPackets - mark)) (reported ++ [(resume o).snapshot.lostPackets]) := by
  obtain ⟨progressed, gained⟩ := progress_tick known.progress rfl known.only due idle
  obtain ⟨s, found, same⟩ := Option.map_eq_some_iff.mp known.progress
  obtain ⟨flows, rest⟩ := Prod.mk.inj same
  obtain ⟨_, orders⟩ := Prod.mk.inj rest
  have lost : loss s = (resume o).snapshot.lostPackets := by
    rw [← orders]
    rfl
  have listed : w.c.reg.streams.toList = [(stream, s)] := by
    have keys : w.c.reg.streams.toList.map Prod.fst = [stream] := by
      rw [← known.only, FiniteMap.toList, List.map_map]
      rfl
    have member := (FiniteMap.mem_toList w.c.reg.streams stream s).mpr found
    obtain ⟨e, alone⟩ := List.length_eq_one_iff.mp (by rw [← List.length_map Prod.fst, keys]; rfl)
    rw [alone, List.mem_singleton] at member
    rw [alone, member]
  have heard : w.heard sender (.stored, .flush ts) = [((stream, 1), (resume o).snapshot.lostPackets)] := by
    have sent : s.flow.src.ip = sender := by
      rw [flows]
      rfl
    have ticking : ticks w.c (.stored, .flush ts) = true := due
    rw [Monitor.heard, reporting, listed, List.filter_singleton]
    simp only [sent, ticking, decide_true, Bool.true_or, Bool.and_self, cond_true, List.map_cons,
      List.map_nil, known.born, lost]
  refine ⟨only, progressed, ?_, ?_, ?_⟩
  · rw [UInt64.ofNat_add, ← known.row]
    exact gained
  · have kept : (w.step sender (.stored, .flush ts)).reports =
        w.reports ++ w.heard sender (.stored, .flush ts) := rfl
    rw [kept, heard, known.reports, List.map_append]
    rfl
  · exact known.born

theorem known_recovering :
    Known (watch (opening ++ recovering)) 0 ⟨some 1, some 3, 0, 0#64⟩ 1 [1, 0] := by
  have gap : ordering ((resume ⟨some 1, some 1, 0, 0#64⟩).observeSequence 3) =
      ⟨some 1, some 3, 0, 1#64⟩ := by decide +kernel
  have filled : ordering ((resume ⟨some 1, some 3, 0, 1#64⟩).observeSequence 2) =
      ⟨some 1, some 3, 0, 0#64⟩ := by decide +kernel
  have one : (resume ⟨some 1, some 3, 0, 1#64⟩).snapshot.lostPackets = 1 := by decide +kernel
  have none_ : (resume ⟨some 1, some 3, 0, 0#64⟩).snapshot.lostPackets = 0 := by decide +kernel
  have opened : Known (watch opening) 0 ⟨some 1, some 1, 0, 0#64⟩ 0 [] := by
    refine ⟨?_, ?_, ?_, ?_, ?_⟩ <;> decide +kernel
  have first := opened.arrival 200000 3 (by decide +kernel)
  rw [gap] at first
  have firstTick := first.tick 1000000 (by decide +kernel) (by decide +kernel) (by decide +kernel)
  rw [one] at firstTick
  have second := firstTick.arrival 1100000 2 (by decide +kernel)
  rw [filled] at second
  have secondTick := second.tick 2000000 (by decide +kernel) (by decide +kernel) (by decide +kernel)
  rw [none_] at secondTick
  exact secondTick

theorem known_climbing : Known (watch (opening ++ climbing)) 1 ⟨some 1, some 5, 0, 1#64⟩ 2 [1, 0, 1] := by
  have again : ordering ((resume ⟨some 1, some 3, 0, 0#64⟩).observeSequence 5) =
      ⟨some 1, some 5, 0, 1#64⟩ := by decide +kernel
  have one : (resume ⟨some 1, some 5, 0, 1#64⟩).snapshot.lostPackets = 1 := by decide +kernel
  have third := known_recovering.arrival 2100000 5 (by decide +kernel)
  rw [again] at third
  have thirdTick := third.tick 3000000 (by decide +kernel) (by decide +kernel) (by decide +kernel)
  rw [one] at thirdTick
  exact thirdTick

/-- Snapshots of one stream that report these losses. -/
def snapshots (losses : List UInt64) : List Event :=
  losses.map fun lost => .streamSnap { StreamAccounting.sampleSnap "a" 9 with lost }

def summaries (losses : List Nat) : List (UInt64 × StreamSummary) :=
  losses.map fun lost => (1,
    { callId := some "a", ssrc := 7, flow := some (mediaFlow 1), codec := none, payloadType := none
      packets := 9, lost, expected := 9, lossPct := ⟨0⟩, jitterMs := none, firstTsUs := none
      lastTsUs := none, rttMinMs := none, rttAvgMs := none, rttMaxMs := none, onewayMs := none
      mos := none, direction := none, leg := none, viaTurn := false, bytes := 9, history := [] })

/-- One late packet and one lost packet make two lost packets, of which the
stream never reported more than one. The session totals and the import do the
same with its snapshots; without room, the import counts every snapshot anew. -/
theorem recovered_loss_counted_twice :
    ¬ Meter.Between (lostTx sender ((Correlator.new .stored {} "eth0").run (opening ++ climbing)).reg).toNat
        (reports sender .stored {} "eth0" (opening ++ climbing)) ∧
      ¬ Meter.Between (accOf (snapshots [1, 0, 1])).all.lost.toNat
        (StreamAccounting.readings .lost (snapshots [1, 0, 1])) ∧
      ¬ Meter.Between (lostTx sender (imported (blank "a.evlog" 1 1 1) (summaries [1, 0, 1]))).toNat
        (readings sender (summaries [1, 0, 1])) ∧
      ¬ Meter.Between (lostTx sender (imported (blank "a.evlog" 1 0 1) (summaries [1, 1]))).toNat
        (readings sender (summaries [1, 1])) := by
  refine ⟨?_, by decide +kernel, by decide +kernel, by decide +kernel⟩
  have row := known_climbing.row
  rw [watch, c_monitor] at row
  have reported : reports sender .stored {} "eth0" (opening ++ climbing) = _ := known_climbing.reports
  rw [row, reported]
  decide +kernel

/-- A late packet alone is counted once, as lost while it was missing. -/
theorem late_packet_counted_once :
    Meter.Between (lostTx sender ((Correlator.new .stored {} "eth0").run (opening ++ recovering)).reg).toNat
        (reports sender .stored {} "eth0" (opening ++ recovering)) ∧
      current sender ((Correlator.new .stored {} "eth0").run (opening ++ recovering)).reg ≤
        (lostTx sender ((Correlator.new .stored {} "eth0").run (opening ++ recovering)).reg).toNat ∧
      Meter.Between (accOf (snapshots [1, 0])).all.lost.toNat
        (StreamAccounting.readings .lost (snapshots [1, 0])) ∧
      Meter.Between (lostTx sender (imported (blank "a.evlog" 1 1 1) (summaries [1, 0]))).toNat
        (readings sender (summaries [1, 0])) := by
  have spared : Run.Along step (SparesRow sender) (.new .stored {} "eth0") (opening ++ recovering) := by
    refine ⟨trivial, fun due => ?_, trivial, trivial, fun due => ?_, trivial, fun due => ?_, trivial⟩
    all_goals
      revert due
      decide +kernel
  have reported : reports sender .stored {} "eth0" (opening ++ recovering) = _ := known_recovering.reports
  obtain ⟨live, totals, imports⟩ := loss_counted_once_iff sender
  have fits : (Meter.run (reports sender .stored {} "eth0" (opening ++ recovering))).counted < 2 ^ 64 := by
    rw [reported]
    decide +kernel
  obtain ⟨between, ticked⟩ := live .stored {} "eth0" (opening ++ recovering) spared fits
  refine ⟨between.mpr ?_, ticked (opening ++ recovering.take 3) .stored 2000000 rfl (by decide +kernel),
    (totals (snapshots [1, 0]) (by decide +kernel) (by decide +kernel)).mpr (by decide +kernel),
    (imports "a.evlog" 1 1 1 (summaries [1, 0]) (by decide +kernel)).mpr (by decide +kernel)⟩
  rw [reported]
  decide +kernel

end Sipmon.Guarantees.LossCounting
