import Sipmon.Guarantees.SequenceLoss

/-!
# Restarted senders

A sender that starts again picks its first number at random. Statistics that
notice the restart track the new numbers as fresh statistics would.
-/
namespace Sipmon.Guarantees.SequenceRestart
open Source SequenceLoss

/-- The packets of one sender, in the order they arrive. -/
def observeAll (acc : MediaStatsAccumulator) (arrivals : List (UInt64 × RtpHeader)) : MediaStatsAccumulator :=
  arrivals.foldl (fun acc arrival => acc.observe arrival.1 arrival.2) acc

/-- The distance of two numbers on the circle, whichever is ahead. -/
def circularDistance (a b : UInt16) : Nat := min (a - b).toNat (b - a).toNat

/-- After the arrivals the tracking is that of fresh statistics. What these book is
booked, and at most the losses that were missing before besides. -/
structure StartsOver (before : MediaStatsAccumulator) (arrivals : List (UInt64 × RtpHeader)) : Prop where
  last : (observeAll before arrivals).lastSequence = (observeAll {} arrivals).lastSequence
  mask : (observeAll before arrivals).pendingMask = (observeAll {} arrivals).pendingMask
  booked : before.lostPackets + (observeAll {} arrivals).lostPackets ≤ (observeAll before arrivals).lostPackets
  bounded : (observeAll before arrivals).lostPackets ≤
    before.lostPackets + (observeAll {} arrivals).lostPackets + countOnes before.pendingMask

/-- Statistics that track alike and have booked `k` losses more. -/
structure Lifted (k : Nat) (base more : MediaStatsAccumulator) : Prop where
  started : base.firstSequence.isSome
  started' : more.firstSequence.isSome
  last : ∃ last, base.lastSequence = some last ∧ more.lastSequence = some last
  mask : more.pendingMask = base.pendingMask
  lost : more.lostPackets = k + base.lostPackets

theorem lifted_observeSequence {k : Nat} {base more : MediaStatsAccumulator} (lifted : Lifted k base more)
    (seq : UInt16) : Lifted k (base.observeSequence seq) (more.observeSequence seq) := by
  obtain ⟨started, started', ⟨last, tracked, tracked'⟩, mask, lost⟩ := lifted
  rw [observeSequence_next started tracked, observeSequence_next started' tracked']
  split
  · exact ⟨started, started', ⟨last, tracked, tracked'⟩, mask, lost⟩
  · split
    · unfold MediaStatsAccumulator.forward
      rw [mask, lost]
      split
      · exact ⟨started, started', ⟨seq, rfl, rfl⟩, rfl, rfl⟩
      · exact ⟨started, started', ⟨seq, rfl, rfl⟩, rfl, by dsimp only; omega⟩
    · unfold MediaStatsAccumulator.reordered
      rw [mask]
      split
      · exact ⟨started, started', ⟨last, tracked, tracked'⟩, rfl, lost⟩
      · exact ⟨started, started', ⟨last, tracked, tracked'⟩, mask, lost⟩

theorem lifted_congr {k : Nat} {base base' more more' : MediaStatsAccumulator}
    (same : ordering base = ordering base') (same' : ordering more = ordering more')
    (lifted : Lifted k base more) : Lifted k base' more' := by
  obtain ⟨first, last, lost, mask⟩ := Arrivals.mk.inj same
  obtain ⟨first', last', lost', mask'⟩ := Arrivals.mk.inj same'
  obtain ⟨started, started', tracked, masks, losses⟩ := lifted
  exact ⟨first ▸ started, first' ▸ started', last ▸ last' ▸ tracked, mask ▸ mask' ▸ masks,
    lost ▸ lost' ▸ losses⟩

theorem lifted_observeAll {k : Nat} {base more : MediaStatsAccumulator} (lifted : Lifted k base more)
    (arrivals : List (UInt64 × RtpHeader)) :
    Lifted k (observeAll base arrivals) (observeAll more arrivals) := by
  induction arrivals generalizing base more with
  | nil => exact lifted
  | cons arrival rest ih =>
    refine ih (lifted_congr (ordering_observe _ _ _).symm (ordering_observe _ _ _).symm ?_)
    exact lifted_observeSequence lifted arrival.2.sequenceNumber

/-- Starting anywhere far from the last number starts over exactly when it is ahead. -/
theorem restart_starts_over_iff (feeds : List Feed) (last : UInt16) (arrivalMicros : UInt64) (header : RtpHeader)
    (tracked : (run feeds).lastSequence = some last)
    (far : rtpRestartWindow < circularDistance header.sequenceNumber last) :
    (∀ rest, StartsOver (run feeds) ((arrivalMicros, header) :: rest)) ↔
      (header.sequenceNumber - last).toNat < 0x8000 := by
  have started : (run feeds).firstSequence.isSome := by
    have tracks := tracks_run feeds
    unfold Tracks at tracks
    rw [tracks, tracked]
    rfl
  unfold circularDistance rtpRestartWindow at far
  have step := observeSequence_next started tracked header.sequenceNumber
  rw [if_neg (by omega)] at step
  have fresh : ordering (({} : MediaStatsAccumulator).observe arrivalMicros header) =
      ⟨some header.sequenceNumber, some header.sequenceNumber, 0, 0⟩ :=
    (ordering_observe _ _ _).trans (observeSequence_first rfl _)
  have next := ordering_observe (run feeds) arrivalMicros header
  rw [step] at next
  constructor
  · intro starts
    by_contra behind
    rw [if_neg behind] at next
    have stalled : (observeAll (run feeds) [(arrivalMicros, header)]).lastSequence = some last := by
      refine (congrArg Arrivals.lastSequence next).trans ?_
      have kept : ((run feeds).reordered (last - header.sequenceNumber).toNat).lastSequence =
          (run feeds).lastSequence := by
        unfold MediaStatsAccumulator.reordered
        split <;> rfl
      exact kept.trans tracked
    have resumed : (observeAll {} [(arrivalMicros, header)]).lastSequence = some header.sequenceNumber :=
      congrArg Arrivals.lastSequence fresh
    have same := (starts []).last
    rw [stalled, resumed] at same
    cases same
    rw [UInt16.sub_self] at far
    exact absurd far (by decide)
  · intro ahead rest
    rw [if_pos ahead] at next
    have restarted : ordering ((run feeds).forward header.sequenceNumber (header.sequenceNumber - last).toNat) =
        ⟨(run feeds).firstSequence, some header.sequenceNumber, (run feeds).lostPackets, 0⟩ := by
      unfold MediaStatsAccumulator.forward
      rw [if_pos (by unfold rtpRestartWindow; omega)]
      rfl
    rw [restarted] at next
    obtain ⟨first, last', lost, mask⟩ := Arrivals.mk.inj next
    obtain ⟨first', last'', lost', mask'⟩ := Arrivals.mk.inj fresh
    have lifted : Lifted (run feeds).lostPackets (({} : MediaStatsAccumulator).observe arrivalMicros header)
        ((run feeds).observe arrivalMicros header) :=
      ⟨by rw [first']; rfl, by rw [first]; exact started, ⟨_, last'', last'⟩, by rw [mask, mask'],
        by rw [lost, lost']; rfl⟩
    obtain ⟨_, _, ⟨number, tracked, tracked'⟩, masks, losses⟩ := lifted_observeAll lifted rest
    exact ⟨tracked'.trans tracked.symm, masks, Nat.le_of_eq losses.symm,
      Nat.le_trans (Nat.le_of_eq losses) (Nat.le_add_right _ _)⟩

theorem ordering_observeAll {a b : MediaStatsAccumulator} (same : ordering a = ordering b)
    (arrivals : List (UInt64 × RtpHeader)) :
    ordering (observeAll a arrivals) =
      ordering ((arrivals.map fun arrival => arrival.2.sequenceNumber).foldl
        MediaStatsAccumulator.observeSequence b) := by
  induction arrivals generalizing a b with
  | nil => exact same
  | cons arrival rest ih =>
    exact ih ((ordering_observe a arrival.1 arrival.2).trans (ordering_observeSequence same _))

theorem lastSequence_observeAll (feeds : List Feed) (arrivals : List (UInt64 × RtpHeader)) :
    (observeAll (run feeds) arrivals).lastSequence =
      ((arrivals.map fun arrival => arrival.2.sequenceNumber).foldl
        MediaStatsAccumulator.observeSequence (sequences (feeds.filterMap numberOf))).lastSequence :=
  congrArg Arrivals.lastSequence (ordering_observeAll (ordering_run feeds) arrivals)

/-- A sender at 30000 starts again at 100: the tracking stays where it was. -/
theorem restart_behind_stalls :
    rtpRestartWindow < circularDistance 100 30000 ∧
      ¬ StartsOver (run [.packet 0 (numbered 30000)])
        [(20000, numbered 100), (40000, numbered 101), (60000, numbered 102)] := by
  refine ⟨by decide, fun starts => ?_⟩
  have same := starts.last
  rw [lastSequence_observeAll, show ({} : MediaStatsAccumulator) = run [] from rfl,
    lastSequence_observeAll] at same
  exact absurd same (by decide)

theorem restart_ahead_starts_over :
    StartsOver (run [.packet 0 (numbered 100)]) [(20000, numbered 30000), (40000, numbered 30001)] :=
  (restart_starts_over_iff [.packet 0 (numbered 100)] 100 20000 (numbered 30000)
    (lastSequence_run _) (by decide)).mpr (by decide) [(40000, numbered 30001)]

end Sipmon.Guarantees.SequenceRestart
