import Sipmon.Lib.BitWindow
import Sipmon.Lib.Run
import Sipmon.Source.MediaStats

/-!
# Loss by sequence numbers

Four fields of the stream statistics follow the sequence numbers alone. The loss
a snapshot shows is the booked loss and the marks of the window; an advance adds
the numbers it skips, a late packet takes its own mark back.
-/
namespace Sipmon.Guarantees.SequenceLoss
open Lib Lib.BitWindow Source

/-! ## What sequence numbers decide -/

/-- The part of the statistics that sequence numbers decide. -/
structure Arrivals where
  firstSequence : Option UInt16
  lastSequence : Option UInt16
  lostPackets : Nat
  pendingMask : BitVec 64
  deriving DecidableEq

def ordering (acc : MediaStatsAccumulator) : Arrivals :=
  ⟨acc.firstSequence, acc.lastSequence, acc.lostPackets, acc.pendingMask⟩

theorem ordering_forward {a b : MediaStatsAccumulator} (same : ordering a = ordering b) (seq : UInt16)
    (diff : Nat) : ordering (a.forward seq diff) = ordering (b.forward seq diff) := by
  obtain ⟨first, last, lost, mask⟩ := Arrivals.mk.inj same
  unfold MediaStatsAccumulator.forward
  rw [lost, mask]
  split <;> simp only [ordering, first]

theorem ordering_reordered {a b : MediaStatsAccumulator} (same : ordering a = ordering b) (age : Nat) :
    ordering (a.reordered age) = ordering (b.reordered age) := by
  obtain ⟨first, last, lost, mask⟩ := Arrivals.mk.inj same
  unfold MediaStatsAccumulator.reordered
  split <;> simp only [ordering, first, last, lost, mask]

theorem ordering_observeSequence {a b : MediaStatsAccumulator} (same : ordering a = ordering b)
    (seq : UInt16) : ordering (a.observeSequence seq) = ordering (b.observeSequence seq) := by
  obtain ⟨first, last, lost, mask⟩ := Arrivals.mk.inj same
  unfold MediaStatsAccumulator.observeSequence
  rw [first, last]
  split
  · simp only [ordering, lost, mask]
  · split
    · simp only [ordering, lost, mask]
    · dsimp only
      split
      · exact same
      · split
        · exact ordering_forward same seq _
        · exact ordering_reordered same _

theorem ordering_observe (acc : MediaStatsAccumulator) (ts : UInt64) (header : RtpHeader) :
    ordering (acc.observe ts header) = ordering (acc.observeSequence header.sequenceNumber) := by
  have jittered : ∀ (a : MediaStatsAccumulator) (rate : UInt32),
      ordering (a.observeJitter ts header.timestamp rate) = ordering a := by
    intro a rate
    unfold MediaStatsAccumulator.observeJitter
    dsimp only
    split
    · split <;> rfl
    · rfl
  have counted : ordering { acc with
      packetCount := acc.packetCount + 1
      payloadType := acc.payloadType.or (some header.payloadType)
      clockRate := some (acc.clockRate.getD (rtpClockRateForPayloadType header.payloadType)) } =
        ordering acc := rfl
  unfold MediaStatsAccumulator.observe
  dsimp only
  rw [jittered]
  exact ordering_observeSequence counted header.sequenceNumber

/-- Statistics that have come to this. -/
def resume (o : Arrivals) : MediaStatsAccumulator :=
  { firstSequence := o.firstSequence, lastSequence := o.lastSequence, lostPackets := o.lostPackets
    pendingMask := o.pendingMask }

/-! ## One arrival -/

/-- The loss a snapshot shows. -/
def figure (acc : MediaStatsAccumulator) : Nat := acc.snapshot.lostPackets

theorem countOnes_eq {w : Nat} (mask : BitVec w) : countOnes mask = ones mask :=
  countP_range _ w

theorem figure_eq (acc : MediaStatsAccumulator) :
    figure acc = acc.lostPackets + ones acc.pendingMask := by
  rw [← countOnes_eq]
  rfl

theorem figure_congr {a b : MediaStatsAccumulator} (same : ordering a = ordering b) :
    figure a = figure b := by
  obtain ⟨_, _, lost, mask⟩ := Arrivals.mk.inj same
  rw [figure_eq, figure_eq, lost, mask]

/-- An advance books or marks every number it skips; nothing reported goes away. -/
theorem forward_figure (acc : MediaStatsAccumulator) (seq : UInt16) {d : Nat} (ahead : 0 < d)
    (near : d ≤ rtpRestartWindow) : figure (acc.forward seq d) = figure acc + (d - 1) := by
  rw [figure_eq, figure_eq]
  unfold MediaStatsAccumulator.forward
  rw [if_neg (Nat.not_lt.mpr near)]
  unfold rtpReorderWindow
  simp only [countOnes_eq]
  by_cases wide : 64 ≤ d
  · rw [if_pos wide]
    dsimp only
    by_cases all : 64 ≤ d - 1
    · rw [Nat.min_eq_right all, if_pos (Nat.le_refl 64), ones_allOnes]
      omega
    · rw [Nat.min_eq_left (by omega), if_neg all, show (0 : BitVec 64) = 0#64 from rfl, BitVec.zero_or,
        ones_low (by omega)]
      omega
  · rw [if_neg wide]
    dsimp only
    have split := ones_shift acc.pendingMask (d := d) (by omega)
    have apart : ∀ i, (acc.pendingMask <<< d).getLsbD i = true →
        (1#64 <<< (d - 1) - 1#64).getLsbD i = false := by
      intro i shifted
      rw [getLsbD_low (by omega)]
      rw [BitVec.getLsbD_shiftLeft] at shifted
      simp only [Bool.and_eq_true, Bool.not_eq_true', decide_eq_false_iff_not] at shifted
      exact decide_eq_false (by omega)
    rw [Nat.min_eq_left (by omega), if_neg (by omega), ones_or _ _ apart, ones_low (by omega)]
    omega

/-- The window after an advance: the skipped numbers, the previous head, the shifted marks. -/
theorem forward_mask (acc : MediaStatsAccumulator) (seq : UInt16) {d : Nat} (ahead : 0 < d)
    (near : d ≤ rtpRestartWindow) {i : Nat} (inside : i < 64) :
    (acc.forward seq d).pendingMask.getLsbD i =
      (decide (i < d - 1) || (decide (d ≤ i) && acc.pendingMask.getLsbD (i - d))) := by
  unfold MediaStatsAccumulator.forward
  rw [if_neg (Nat.not_lt.mpr near)]
  unfold rtpReorderWindow
  by_cases wide : 64 ≤ d
  · have notYet : ¬ d ≤ i := by omega
    rw [if_pos wide]
    dsimp only
    by_cases all : 64 ≤ d - 1
    · have skipped : i < d - 1 := by omega
      rw [Nat.min_eq_right all, if_pos (Nat.le_refl 64), BitVec.getLsbD_allOnes]
      simp [inside, skipped]
    · rw [Nat.min_eq_left (by omega), if_neg all, show (0 : BitVec 64) = 0#64 from rfl, BitVec.zero_or,
        getLsbD_low (by omega)]
      simp [notYet]
  · rw [if_neg wide]
    dsimp only
    rw [Nat.min_eq_left (by omega), if_neg (by omega), BitVec.getLsbD_or, getLsbD_low (by omega),
      BitVec.getLsbD_shiftLeft, Bool.or_comm]
    by_cases shifted : d ≤ i
    · simp [inside, shifted, Nat.not_lt.mpr shifted]
    · simp [shifted, Nat.lt_of_not_le shifted]

/-- A late packet takes back its own mark, if it has one. -/
theorem reordered_figure (acc : MediaStatsAccumulator) (age : Nat) :
    figure (acc.reordered age) +
        (if (0 < age ∧ age ≤ rtpReorderWindow) ∧ acc.pendingMask.getLsbD (age - 1) = true then 1 else 0) =
      figure acc := by
  rw [figure_eq, figure_eq]
  unfold MediaStatsAccumulator.reordered
  by_cases inside : 0 < age ∧ age ≤ rtpReorderWindow
  · rw [if_pos inside]
    dsimp only
    cases marked : acc.pendingMask.getLsbD (age - 1) with
    | true =>
      have cleared := ones_clear acc.pendingMask marked
      rw [if_pos ⟨inside, rfl⟩]
      omega
    | false =>
      rw [clear_unset acc.pendingMask marked, if_neg (fun both => Bool.false_ne_true both.2)]
      rfl
  · rw [if_neg inside, if_neg (fun both => inside both.1)]
    rfl

theorem reordered_mask (acc : MediaStatsAccumulator) {age : Nat} (inside : 0 < age ∧ age ≤ rtpReorderWindow)
    (i : Nat) : (acc.reordered age).pendingMask.getLsbD i = (acc.pendingMask.getLsbD i && i != age - 1) := by
  unfold MediaStatsAccumulator.reordered
  rw [if_pos inside]
  exact getLsbD_clear acc.pendingMask (age - 1) i

/-- The distance back is the complement of the distance ahead. -/
theorem distance_back (seq last : UInt16) (apart : (seq - last).toNat ≠ 0) :
    (last - seq).toNat = 65536 - (seq - last).toNat := by
  have ahead := UInt16.toNat_sub seq last
  have back := UInt16.toNat_sub last seq
  have bound := seq.toNat_lt
  have bound' := last.toNat_lt
  omega

theorem observeSequence_first {acc : MediaStatsAccumulator} (fresh : acc.firstSequence = none) (seq : UInt16) :
    ordering (acc.observeSequence seq) = ⟨some seq, some seq, acc.lostPackets, acc.pendingMask⟩ := by
  unfold MediaStatsAccumulator.observeSequence
  rw [fresh]
  rfl

theorem observeSequence_next {acc : MediaStatsAccumulator} {last : UInt16}
    (started : acc.firstSequence.isSome) (tracked : acc.lastSequence = some last) (seq : UInt16) :
    acc.observeSequence seq =
      if (seq - last).toNat = 0 then acc
      else if (seq - last).toNat < 0x8000 then acc.forward seq (seq - last).toNat
      else acc.reordered (last - seq).toNat := by
  unfold MediaStatsAccumulator.observeSequence
  rw [if_neg (by rw [Option.isNone_iff_eq_none]; intro fresh; rw [fresh] at started; cases started), tracked]

/-! ## Runs -/

inductive Feed where
  | packet (arrivalMicros : UInt64) (header : RtpHeader)
  | clockRate (rate : UInt32)

def feed (acc : MediaStatsAccumulator) : Feed → MediaStatsAccumulator
  | .packet arrivalMicros header => acc.observe arrivalMicros header
  | .clockRate rate => acc.setClockRate rate

/-- The statistics a stream can have come to. -/
def run (feeds : List Feed) : MediaStatsAccumulator := feeds.foldl feed {}

theorem ordering_setClockRate (acc : MediaStatsAccumulator) (rate : UInt32) :
    ordering (acc.setClockRate rate) = ordering acc := by
  unfold MediaStatsAccumulator.setClockRate
  split <;> rfl

/-- A first number is recorded together with a last one. -/
def Tracks (acc : MediaStatsAccumulator) : Prop :=
  acc.firstSequence.isSome = acc.lastSequence.isSome

theorem tracks_congr {a b : MediaStatsAccumulator} (same : ordering a = ordering b) :
    Tracks a ↔ Tracks b := by
  obtain ⟨first, last, _, _⟩ := Arrivals.mk.inj same
  unfold Tracks
  rw [first, last]

theorem tracks_observeSequence {acc : MediaStatsAccumulator} (tracks : Tracks acc) (seq : UInt16) :
    Tracks (acc.observeSequence seq) := by
  cases first : acc.firstSequence with
  | none =>
    obtain ⟨first', last', _, _⟩ := Arrivals.mk.inj (observeSequence_first first seq)
    unfold Tracks
    rw [first', last']
  | some number =>
    have started : acc.firstSequence.isSome := by rw [first]; rfl
    obtain ⟨last, tracked⟩ := Option.isSome_iff_exists.mp (tracks ▸ started)
    rw [observeSequence_next started tracked]
    split
    · exact tracks
    · split
      · have kept : (acc.forward seq (seq - last).toNat).firstSequence = acc.firstSequence ∧
            (acc.forward seq (seq - last).toNat).lastSequence = some seq := by
          unfold MediaStatsAccumulator.forward
          split <;> exact ⟨rfl, rfl⟩
        unfold Tracks
        rw [kept.1, kept.2, first]
        rfl
      · have kept : (acc.reordered (last - seq).toNat).firstSequence = acc.firstSequence ∧
            (acc.reordered (last - seq).toNat).lastSequence = acc.lastSequence := by
          unfold MediaStatsAccumulator.reordered
          split <;> exact ⟨rfl, rfl⟩
        unfold Tracks
        rw [kept.1, kept.2]
        exact tracks

theorem tracks_run (feeds : List Feed) : Tracks (run feeds) := by
  unfold run
  induction feeds using List.reverseRecOn with
  | nil => rfl
  | append_singleton feeds step ih =>
    rw [List.foldl_append]
    cases step with
    | packet arrivalMicros header =>
      exact (tracks_congr (ordering_observe _ arrivalMicros header)).mpr (tracks_observeSequence ih _)
    | clockRate rate => exact (tracks_congr (ordering_setClockRate _ rate)).mpr ih

/-! ## Loss that moves by rules -/

/-- The number is marked as missing in the window. -/
def Pending (acc : MediaStatsAccumulator) (seq : UInt16) : Prop :=
  ∃ last ∈ acc.lastSequence, (0 < (last - seq).toNat ∧ (last - seq).toNat ≤ rtpReorderWindow) ∧
    acc.pendingMask.getLsbD ((last - seq).toNat - 1) = true

/-- A number that was missing lowers the figure by one, any other does not lower it. -/
def MovesByRules (before after : MediaStatsAccumulator) (seq : UInt16) : Prop :=
  (Pending before seq → figure after + 1 = figure before) ∧
    (¬ Pending before seq → figure before ≤ figure after)

/-- The number restarts the stream ahead of the window while others are marked as missing. -/
def Discards (acc : MediaStatsAccumulator) (seq : UInt16) : Prop :=
  ∃ last ∈ acc.lastSequence, rtpRestartWindow < (seq - last).toNat ∧ (seq - last).toNat < 0x8000 ∧
    acc.pendingMask ≠ 0

/-- Only a number behind the last one can be missing. -/
theorem behind_of_pending {acc : MediaStatsAccumulator} {seq last : UInt16}
    (tracked : acc.lastSequence = some last) (pending : Pending acc seq) :
    0x8000 ≤ (seq - last).toNat := by
  obtain ⟨_, same, ⟨positive, near⟩, _⟩ := pending
  rw [tracked] at same
  cases same
  have back := distance_back last seq (by omega)
  unfold rtpReorderWindow at near
  omega

/-- The marks of the window are lost without being booked. -/
theorem restart_figure (acc : MediaStatsAccumulator) (seq : UInt16) {d : Nat} (far : rtpRestartWindow < d) :
    figure (acc.forward seq d) + ones acc.pendingMask = figure acc := by
  rw [figure_eq, figure_eq]
  unfold MediaStatsAccumulator.forward
  rw [if_pos far]
  dsimp only
  rw [ones_zero]
  rfl

theorem not_pending_ahead {acc : MediaStatsAccumulator} {seq last : UInt16} (tracked : acc.lastSequence = some last)
    (ahead : (seq - last).toNat < 0x8000) : ¬ Pending acc seq := by
  intro pending
  have behind := behind_of_pending tracked pending
  omega

/-- The first number of a stream leaves the figure as it is. -/
theorem moves_first {acc : MediaStatsAccumulator} (tracks : Tracks acc) (untracked : acc.lastSequence = none)
    (seq : UInt16) : MovesByRules acc (acc.observeSequence seq) seq := by
  have fresh : acc.firstSequence = none := by
    unfold Tracks at tracks
    rw [untracked] at tracks
    simpa using tracks
  have same : figure (acc.observeSequence seq) = figure acc := by
    obtain ⟨_, _, lost, mask⟩ := Arrivals.mk.inj (observeSequence_first fresh seq)
    rw [figure_eq, figure_eq, lost, mask]
  refine ⟨?_, fun _ => Nat.le_of_eq same.symm⟩
  rintro ⟨last, member, _⟩
  rw [untracked] at member
  cases member

section Tracked

variable {acc : MediaStatsAccumulator} {seq last : UInt16} {d : Nat}

theorem moves_restart_iff (unmarked : ¬ Pending acc seq) (far : rtpRestartWindow < d) :
    MovesByRules acc (acc.forward seq d) seq ↔ acc.pendingMask = 0 := by
  have dropped := restart_figure acc seq far
  constructor
  · rintro ⟨_, kept⟩
    have whole := kept unmarked
    exact ones_eq_zero (by omega)
  · intro unused
    rw [unused, ones_zero] at dropped
    exact ⟨fun pending => absurd pending unmarked, fun _ => Nat.le_of_eq dropped.symm⟩

theorem moves_forward (unmarked : ¬ Pending acc seq) (ahead : 0 < d) (near : d ≤ rtpRestartWindow) :
    MovesByRules acc (acc.forward seq d) seq := by
  have grown := forward_figure acc seq ahead near
  refine ⟨fun pending => absurd pending unmarked, fun _ => ?_⟩
  rw [grown]
  exact Nat.le_add_right _ _

theorem moves_reordered (tracked : acc.lastSequence = some last) :
    MovesByRules acc (acc.reordered (last - seq).toNat) seq := by
  have moved := reordered_figure acc (last - seq).toNat
  have pending : Pending acc seq ↔
      (0 < (last - seq).toNat ∧ (last - seq).toNat ≤ rtpReorderWindow) ∧
        acc.pendingMask.getLsbD ((last - seq).toNat - 1) = true := by
    unfold Pending
    simp [tracked]
  refine ⟨fun marked => ?_, fun unmarked => ?_⟩
  · rw [if_pos (pending.mp marked)] at moved
    exact moved
  · rw [if_neg (fun marked => unmarked (pending.mpr marked))] at moved
    exact Nat.le_of_eq moved.symm

end Tracked

theorem moves_observeSequence_iff {acc : MediaStatsAccumulator} (tracks : Tracks acc) (seq : UInt16) :
    MovesByRules acc (acc.observeSequence seq) seq ↔ ¬ Discards acc seq := by
  cases tracked : acc.lastSequence with
  | none =>
    have spared : ¬ Discards acc seq := by
      rintro ⟨last, member, _⟩
      rw [tracked] at member
      cases member
    exact iff_of_true (moves_first tracks tracked seq) spared
  | some last =>
    have started : acc.firstSequence.isSome := by
      unfold Tracks at tracks
      rw [tracks, tracked]
      rfl
    have discards : Discards acc seq ↔ rtpRestartWindow < (seq - last).toNat ∧
        (seq - last).toNat < 0x8000 ∧ acc.pendingMask ≠ 0 := by
      unfold Discards
      simp [tracked]
    rw [discards, observeSequence_next started tracked seq]
    by_cases again : (seq - last).toNat = 0
    · rw [if_pos again]
      have unmarked : ¬ Pending acc seq := not_pending_ahead tracked (by omega)
      refine iff_of_true ⟨fun pending => absurd pending unmarked, fun _ => Nat.le_refl _⟩ fun restart => ?_
      omega
    · rw [if_neg again]
      by_cases ahead : (seq - last).toNat < 0x8000
      · rw [if_pos ahead]
        have unmarked := not_pending_ahead tracked ahead
        by_cases far : rtpRestartWindow < (seq - last).toNat
        · rw [moves_restart_iff unmarked far]
          tauto
        · have moves := moves_forward unmarked (Nat.pos_of_ne_zero again) (Nat.not_lt.mp far)
          exact iff_of_true moves fun restart => far restart.1
      · rw [if_neg ahead]
        exact iff_of_true (moves_reordered tracked) fun restart => ahead restart.2.1

/-- An arrival moves the loss by its rules unless it is a restart that discards marks. -/
theorem loss_moves_by_rules_iff (feeds : List Feed) (arrivalMicros : UInt64) (header : RtpHeader) :
    MovesByRules (run feeds) ((run feeds).observe arrivalMicros header) header.sequenceNumber ↔
      ¬ Discards (run feeds) header.sequenceNumber := by
  have same := figure_congr (ordering_observe (run feeds) arrivalMicros header)
  unfold MovesByRules
  rw [same]
  exact moves_observeSequence_iff (tracks_run feeds) header.sequenceNumber

/-- Numbers without their stamps. -/
def sequences (numbers : List UInt16) : MediaStatsAccumulator :=
  numbers.foldl MediaStatsAccumulator.observeSequence {}

def numberOf : Feed → Option UInt16
  | .packet _ header => some header.sequenceNumber
  | .clockRate _ => none

theorem ordering_run (feeds : List Feed) : ordering (run feeds) = ordering (sequences (feeds.filterMap numberOf)) := by
  unfold run sequences
  induction feeds using List.reverseRecOn with
  | nil => rfl
  | append_singleton feeds step ih =>
    rw [List.foldl_append, List.filterMap_append, List.foldl_append]
    cases step with
    | packet arrivalMicros header =>
      exact (ordering_observe _ arrivalMicros header).trans (ordering_observeSequence ih _)
    | clockRate rate => exact (ordering_setClockRate _ rate).trans ih

theorem lastSequence_run (feeds : List Feed) :
    (run feeds).lastSequence = (sequences (feeds.filterMap numberOf)).lastSequence :=
  congrArg Arrivals.lastSequence (ordering_run feeds)

/-- A packet by its sequence number. -/
def numbered (seq : UInt16) : RtpHeader := ⟨2, 0, seq, 160, 7⟩

/-- Number 11 is missing when the sender starts again at 30000: its loss disappears. -/
theorem restart_discards_loss :
    ¬ MovesByRules (run [.packet 0 (numbered 10), .packet 20000 (numbered 12)])
      ((run [.packet 0 (numbered 10), .packet 20000 (numbered 12)]).observe 40000 (numbered 30000)) 30000 := by
  have before := ordering_run [.packet 0 (numbered 10), .packet 20000 (numbered 12)]
  generalize run [.packet 0 (numbered 10), .packet 20000 (numbered 12)] = acc at before ⊢
  change ordering acc = ordering (sequences [10, 12]) at before
  have after : ordering (acc.observe 40000 (numbered 30000)) = ordering (sequences [10, 12, 30000]) :=
    (ordering_observe _ 40000 (numbered 30000)).trans (ordering_observeSequence before 30000)
  have missing : figure (sequences [10, 12]) = 1 := by decide
  have gone : figure (sequences [10, 12, 30000]) = 0 := by decide
  have tracked : acc.lastSequence = some 12 := congrArg Arrivals.lastSequence before
  have unmarked : ¬ Pending acc 30000 := by
    intro pending
    exact absurd (behind_of_pending tracked pending) (by decide)
  rintro ⟨_, kept⟩
  have reported := kept unmarked
  rw [figure_congr before, figure_congr after] at reported
  exact absurd (missing ▸ gone ▸ reported) (by decide)

end Sipmon.Guarantees.SequenceLoss
