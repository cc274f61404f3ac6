import Mathlib.Data.Finset.Card
import Mathlib.Data.Finset.Image
import Mathlib.Data.Nat.Count
import Mathlib.Data.UInt
import Mathlib.Order.Interval.Finset.Nat
import Sipmon.Guarantees.SequenceLoss

/-!
# The reorder bitmap as a set

The reference keeps the missing numbers of the window as a set: a gap inserts
them, an arrival removes its own, and those that fall out of the window are lost.
The bitmap of the statistics denotes that set after every arrival.
-/
namespace Sipmon.Guarantees.ReorderSet
open Lib.BitWindow Source SequenceLoss

/-! ## The reference -/

structure Reference where
  newest : Option UInt16 := none
  missing : Finset UInt16 := ∅
  lost : Nat := 0

/-- The `n` numbers before `seq`. -/
def before (seq : UInt16) (n : Nat) : Finset UInt16 := (Finset.Icc 1 n).image fun age => seq - UInt16.ofNat age

namespace Reference

/-- The missing numbers that fall out of the window when `seq` is the newest. -/
def expired (r : Reference) (seq : UInt16) : Finset UInt16 := r.missing.filter fun n => 64 < (seq - n).toNat

/-- A forward gap: its newest 64 numbers become missing, older ones are lost at once.
A jump above 4096 starts over. -/
def advance (r : Reference) (seq : UInt16) (diff : Nat) : Reference :=
  if 4096 < diff then { r with newest := some seq, missing := ∅ }
  else
    { newest := some seq
      missing := (r.missing \ r.expired seq) ∪ before seq (min (diff - 1) 64)
      lost := r.lost + (r.expired seq).card + (diff - 1 - min (diff - 1) 64) }

def arrive (r : Reference) (seq : UInt16) : Reference :=
  match r.newest with
  | none => { r with newest := some seq }
  | some newest =>
    let diff := (seq - newest).toNat
    if diff = 0 then r
    else if diff < 0x8000 then r.advance seq diff
    else if (newest - seq).toNat ≤ 64 then { r with missing := r.missing.erase seq }
    else r

end Reference

def reference (numbers : List UInt16) : Reference := numbers.foldl Reference.arrive {}

/-! ## The set a bitmap denotes -/

/-- The statistics track the reference: same head, same losses, and the marked
numbers of the window are the missing ones. -/
structure Denotes (acc : MediaStatsAccumulator) (r : Reference) : Prop where
  tracks : Tracks acc
  newest : r.newest = acc.lastSequence
  unmarked : acc.lastSequence = none → acc.pendingMask = 0
  missing : ∀ n, n ∈ r.missing ↔ Pending acc n
  lost : acc.lostPackets = r.lost

theorem pending_iff {acc : MediaStatsAccumulator} {last : UInt16} (tracked : acc.lastSequence = some last)
    (n : UInt16) : Pending acc n ↔ (0 < (last - n).toNat ∧ (last - n).toNat ≤ 64) ∧
      acc.pendingMask.getLsbD ((last - n).toNat - 1) = true := by
  unfold Pending rtpReorderWindow
  simp [tracked]

/-- The distance to a number so many places behind. -/
theorem distance_sub (last : UInt16) {age : Nat} (small : age < 65536) :
    (last - (last - UInt16.ofNat age)).toNat = age := by
  have bound := last.toNat_lt
  rw [UInt16.toNat_sub, UInt16.toNat_sub, UInt16.toNat_ofNat']
  omega

theorem sub_distance (last n : UInt16) : last - UInt16.ofNat (last - n).toNat = n := by
  rw [UInt16.ofNat_toNat]
  exact sub_sub_self last n

theorem mem_before {seq n : UInt16} {k : Nat} (small : k < 65536) :
    n ∈ before seq k ↔ 0 < (seq - n).toNat ∧ (seq - n).toNat ≤ k := by
  unfold before
  rw [Finset.mem_image]
  constructor
  · rintro ⟨age, member, rfl⟩
    rw [Finset.mem_Icc] at member
    rw [distance_sub seq (by omega)]
    omega
  · rintro ⟨positive, near⟩
    exact ⟨(seq - n).toNat, Finset.mem_Icc.mpr ⟨positive, near⟩, sub_distance seq n⟩

theorem card_before (seq : UInt16) {k : Nat} (small : k < 65536) : (before seq k).card = k := by
  unfold before
  rw [Finset.card_image_of_injOn, Nat.card_Icc, Nat.add_sub_cancel]
  intro a inA b inB same
  rw [Finset.coe_Icc, Set.mem_Icc] at inA inB
  have distances := congrArg (fun n => (seq - n).toNat) same
  dsimp only at distances
  rwa [distance_sub seq (by omega), distance_sub seq (by omega)] at distances

/-- As many numbers are missing as bits are set. -/
theorem card_missing {acc : MediaStatsAccumulator} {last : UInt16} (tracked : acc.lastSequence = some last)
    {missing : Finset UInt16} (denotes : ∀ n, n ∈ missing ↔ Pending acc n) :
    missing.card = ones acc.pendingMask := by
  have image : missing = ((Finset.range 64).filter fun i => acc.pendingMask.getLsbD i = true).image
      fun i => last - UInt16.ofNat (i + 1) := by
    ext n
    rw [denotes, pending_iff tracked, Finset.mem_image]
    constructor
    · rintro ⟨⟨positive, near⟩, marked⟩
      refine ⟨(last - n).toNat - 1, Finset.mem_filter.mpr ⟨Finset.mem_range.mpr (by omega), marked⟩, ?_⟩
      rw [Nat.sub_add_cancel positive]
      exact sub_distance last n
    · rintro ⟨i, member, rfl⟩
      obtain ⟨inside, marked⟩ := Finset.mem_filter.mp member
      rw [Finset.mem_range] at inside
      rw [distance_sub last (by omega), Nat.add_sub_cancel]
      exact ⟨by omega, marked⟩
  have injective : Set.InjOn (fun i => last - UInt16.ofNat (i + 1))
      ((Finset.range 64).filter fun i => acc.pendingMask.getLsbD i = true) := by
    intro a inA b inB same
    have smallA := Finset.mem_range.mp (Finset.mem_filter.mp inA).1
    have smallB := Finset.mem_range.mp (Finset.mem_filter.mp inB).1
    have distances := congrArg (fun n => (last - n).toNat) same
    dsimp only at distances
    rw [distance_sub last (by omega), distance_sub last (by omega)] at distances
    omega
  rw [image, Finset.card_image_of_injOn injective, ← Nat.count_eq_card_filter_range]
  rfl

/-! ## One arrival -/

/-- Distances to two heads, the later one `d` ahead. -/
theorem distance_ahead {seq last : UInt16} {d : Nat} (distance : (seq - last).toNat = d) (n : UInt16) :
    (seq - n).toNat = (d + (last - n).toNat) % 65536 := by
  rw [← distance, UInt16.toNat_sub, UInt16.toNat_sub, UInt16.toNat_sub]
  have seqBound := seq.toNat_lt
  have lastBound := last.toNat_lt
  have bound := n.toNat_lt
  omega

theorem lastSequence_forward (acc : MediaStatsAccumulator) (seq : UInt16) (d : Nat) :
    (acc.forward seq d).lastSequence = some seq := by
  unfold MediaStatsAccumulator.forward
  split <;> rfl

/-- A restart forgets the marks as it empties the set. -/
theorem missing_restart (acc : MediaStatsAccumulator) (seq : UInt16) {d : Nat} (far : 4096 < d) (n : UInt16) :
    ¬ Pending (acc.forward seq d) n := by
  rw [pending_iff (lastSequence_forward acc seq d)]
  unfold MediaStatsAccumulator.forward
  rw [if_pos (show rtpRestartWindow < d from far)]
  simp

/-- What is missing after a gap: what was and stays in the window, and the gap. -/
theorem missing_forward {acc : MediaStatsAccumulator} {seq last : UInt16} {d : Nat}
    (tracked : acc.lastSequence = some last) (distance : (seq - last).toNat = d) (ahead : 0 < d)
    (near : d ≤ 4096) (n : UInt16) :
    Pending (acc.forward seq d) n ↔
      (Pending acc n ∧ ¬ 64 < (seq - n).toNat) ∨ n ∈ before seq (min (d - 1) 64) := by
  have apart := distance_ahead distance n
  have bound := (last - n).toNat_lt
  rw [pending_iff (lastSequence_forward acc seq d), pending_iff tracked, mem_before (by omega)]
  constructor
  · rintro ⟨⟨positive, close⟩, marked⟩
    rw [forward_mask acc seq ahead near (by omega)] at marked
    rw [Bool.or_eq_true, Bool.and_eq_true, decide_eq_true_eq, decide_eq_true_eq] at marked
    rcases marked with skipped | ⟨older, kept⟩
    · exact Or.inr (by omega)
    · have age : (seq - n).toNat - 1 - d = (last - n).toNat - 1 := by omega
      rw [age] at kept
      exact Or.inl ⟨⟨by omega, kept⟩, by omega⟩
  · rintro (⟨⟨window, marked⟩, stays⟩ | gap)
    · have age : (last - n).toNat - 1 = (seq - n).toNat - 1 - d := by omega
      have older : d ≤ (seq - n).toNat - 1 := by omega
      refine ⟨by omega, ?_⟩
      rw [forward_mask acc seq ahead near (by omega), Bool.or_eq_true, Bool.and_eq_true, ← age]
      exact Or.inr ⟨decide_eq_true older, marked⟩
    · refine ⟨by omega, ?_⟩
      rw [forward_mask acc seq ahead near (by omega), Bool.or_eq_true, decide_eq_true_eq]
      exact Or.inl (by omega)

theorem denotes_forward {acc : MediaStatsAccumulator} {r : Reference} {seq last : UInt16} {d : Nat}
    (denotes : Denotes acc r) (tracked : acc.lastSequence = some last) (distance : (seq - last).toNat = d)
    (ahead : 0 < d) (moved : Tracks (acc.forward seq d)) :
    Denotes (acc.forward seq d) (r.advance seq d) := by
  have head := lastSequence_forward acc seq d
  by_cases far : 4096 < d
  · unfold Reference.advance
    rw [if_pos far]
    refine ⟨moved, head.symm, fun none_ => by simp [head] at none_, fun n => ?_, ?_⟩
    · have gone := missing_restart acc seq far n
      simp [gone]
    · rw [← denotes.lost]
      unfold MediaStatsAccumulator.forward
      rw [if_pos (show rtpRestartWindow < d from far)]
  · have near : d ≤ 4096 := by omega
    have missing : ∀ n, n ∈ (r.missing \ r.expired seq) ∪ before seq (min (d - 1) 64) ↔
        Pending (acc.forward seq d) n := by
      intro n
      rw [missing_forward tracked distance ahead near, Finset.mem_union, Finset.mem_sdiff,
        Reference.expired, Finset.mem_filter, denotes.missing]
      tauto
    unfold Reference.advance
    rw [if_neg far]
    refine ⟨moved, head.symm, fun none_ => by simp [head] at none_, missing, ?_⟩
    -- the figure grows by the gap, and the set holds all of it that is not lost
    have figured := forward_figure acc seq ahead near
    have held := card_missing tracked denotes.missing
    have holds := card_missing head missing
    have apart : Disjoint (r.missing \ r.expired seq) (before seq (min (d - 1) 64)) := by
      rw [Finset.disjoint_left]
      intro n old fresh
      have pending := (denotes.missing n).mp (Finset.mem_sdiff.mp old).1
      rw [pending_iff tracked] at pending
      rw [mem_before (by omega)] at fresh
      have distances := distance_ahead distance n
      omega
    have kept : (r.missing \ r.expired seq).card + (r.expired seq).card = r.missing.card :=
      Finset.card_sdiff_add_card_eq_card (Finset.filter_subset _ _)
    rw [Finset.card_union_of_disjoint apart, card_before seq (by omega)] at holds
    rw [figure_eq, figure_eq, denotes.lost] at figured
    dsimp only
    omega

theorem denotes_reordered {acc : MediaStatsAccumulator} {r : Reference} {seq last : UInt16}
    (denotes : Denotes acc r) (tracked : acc.lastSequence = some last) (apart : last ≠ seq)
    (moved : Tracks (acc.reordered (last - seq).toNat)) :
    Denotes (acc.reordered (last - seq).toNat)
      (if (last - seq).toNat ≤ 64 then { r with missing := r.missing.erase seq } else r) := by
  have positive : 0 < (last - seq).toNat := by
    rw [Nat.pos_iff_ne_zero]
    intro zero
    have nothing : last - seq = 0 := UInt16.toNat_inj.mp zero
    exact apart (sub_eq_zero.mp nothing)
  by_cases inside : (last - seq).toNat ≤ 64
  · have window : 0 < (last - seq).toNat ∧ (last - seq).toNat ≤ rtpReorderWindow := ⟨positive, inside⟩
    have same : (acc.reordered (last - seq).toNat).lastSequence = acc.lastSequence ∧
        (acc.reordered (last - seq).toNat).lostPackets = acc.lostPackets := by
      unfold MediaStatsAccumulator.reordered
      rw [if_pos window]
      exact ⟨rfl, rfl⟩
    rw [if_pos inside]
    refine ⟨moved, denotes.newest.trans same.1.symm, fun none_ => by simp [same.1, tracked] at none_,
      fun n => ?_, same.2.trans denotes.lost⟩
    have own : n ≠ seq ↔ (last - n).toNat ≠ (last - seq).toNat := by
      rw [not_iff_not, UInt16.toNat_inj, sub_right_inj]
    rw [Finset.mem_erase, denotes.missing, pending_iff tracked, pending_iff (same.1.trans tracked),
      reordered_mask acc window, own]
    simp only [Bool.and_eq_true, bne_iff_ne]
    constructor
    · rintro ⟨other, near, marked⟩
      exact ⟨near, marked, by omega⟩
    · rintro ⟨near, marked, other⟩
      exact ⟨by omega, near, marked⟩
  · have outside : ¬ (0 < (last - seq).toNat ∧ (last - seq).toNat ≤ rtpReorderWindow) :=
      fun window => inside window.2
    have same : acc.reordered (last - seq).toNat = acc := by
      unfold MediaStatsAccumulator.reordered
      rw [if_neg outside]
    rw [if_neg inside, same]
    exact denotes

theorem denotes_observeSequence {acc : MediaStatsAccumulator} {r : Reference} (denotes : Denotes acc r)
    (seq : UInt16) : Denotes (acc.observeSequence seq) (r.arrive seq) := by
  have moved := tracks_observeSequence denotes.tracks seq
  have newest := denotes.newest
  cases tracked : acc.lastSequence with
  | none =>
    have fresh : acc.firstSequence = none := by
      have tracks := denotes.tracks
      unfold Tracks at tracks
      rw [tracked] at tracks
      simpa using tracks
    obtain ⟨-, last, lost, mask⟩ := Arrivals.mk.inj (observeSequence_first fresh seq)
    have arrived : r.arrive seq = { r with newest := some seq } := by
      unfold Reference.arrive
      rw [newest, tracked]
    rw [arrived]
    refine ⟨moved, last.symm, fun none_ => by simp [last] at none_, fun n => ?_, lost.trans denotes.lost⟩
    have nothing : ¬ Pending acc n := by
      rintro ⟨_, absent, _⟩
      rw [tracked] at absent
      cases absent
    rw [denotes.missing, pending_iff last, mask, denotes.unmarked tracked]
    simp [nothing]
  | some last =>
    have started : acc.firstSequence.isSome := by
      have tracks := denotes.tracks
      unfold Tracks at tracks
      rw [tracks, tracked]
      rfl
    have arrived : r.arrive seq = if (seq - last).toNat = 0 then r
        else if (seq - last).toNat < 0x8000 then r.advance seq (seq - last).toNat
        else if (last - seq).toNat ≤ 64 then { r with missing := r.missing.erase seq }
        else r := by
      unfold Reference.arrive
      rw [newest, tracked]
    rw [arrived]
    rw [observeSequence_next started tracked] at moved ⊢
    by_cases again : (seq - last).toNat = 0
    · rw [if_pos again, if_pos again]
      exact denotes
    · rw [if_neg again, if_neg again]
      rw [if_neg again] at moved
      by_cases ahead : (seq - last).toNat < 0x8000
      · rw [if_pos ahead, if_pos ahead]
        rw [if_pos ahead] at moved
        exact denotes_forward denotes tracked rfl (Nat.pos_of_ne_zero again) moved
      · rw [if_neg ahead, if_neg ahead]
        rw [if_neg ahead] at moved
        refine denotes_reordered denotes tracked ?_ moved
        rintro rfl
        simp at again

/-! ## Runs -/

theorem denotes_congr {a b : MediaStatsAccumulator} {r : Reference} (same : ordering a = ordering b)
    (denotes : Denotes a r) : Denotes b r := by
  obtain ⟨-, last, lost, mask⟩ := Arrivals.mk.inj same
  refine ⟨(tracks_congr same).mp denotes.tracks, denotes.newest.trans last, fun none_ => ?_, fun n => ?_,
    lost.symm.trans denotes.lost⟩
  · rw [← mask]
    exact denotes.unmarked (last.trans none_)
  · rw [denotes.missing, Pending, Pending, last, mask]

theorem denotes_sequences (numbers : List UInt16) : Denotes (sequences numbers) (reference numbers) := by
  unfold sequences reference
  induction numbers using List.reverseRecOn with
  | nil => exact ⟨rfl, rfl, fun _ => rfl, fun n => by simp [Pending], rfl⟩
  | append_singleton numbers seq ih =>
    rw [List.foldl_append, List.foldl_append]
    exact denotes_observeSequence ih seq

/-- Whatever arrives, and in whatever order: bit `age - 1` is set exactly while the
number `age` places behind the newest is missing in the reference, which misses no
other number, and the losses are those of the reference. -/
theorem bitmap_refines_set (feeds : List Feed) :
    (run feeds).lastSequence = (reference (feeds.filterMap numberOf)).newest ∧
      (∀ last ∈ (run feeds).lastSequence,
        (∀ age, 1 ≤ age → age ≤ 64 →
          ((run feeds).pendingMask.getLsbD (age - 1) = true ↔
            last - UInt16.ofNat age ∈ (reference (feeds.filterMap numberOf)).missing)) ∧
        ∀ n ∈ (reference (feeds.filterMap numberOf)).missing, 1 ≤ (last - n).toNat ∧ (last - n).toNat ≤ 64) ∧
      (run feeds).lostPackets = (reference (feeds.filterMap numberOf)).lost := by
  have denotes := denotes_congr (ordering_run feeds).symm (denotes_sequences (feeds.filterMap numberOf))
  refine ⟨denotes.newest.symm, fun last tracked => ⟨fun age low high => ?_, fun n member => ?_⟩, denotes.lost⟩
  · rw [denotes.missing, pending_iff tracked, distance_sub last (by omega)]
    exact ⟨fun marked => ⟨⟨low, high⟩, marked⟩, fun pending => pending.2⟩
  · exact ((pending_iff tracked n).mp ((denotes.missing n).mp member)).1

/-- Number 65535 is missing after the wrap, and 64 places on it is lost. -/
example : ((reference [65534, 0]).missing = {65535} ∧ (reference [65534, 0, 63, 64]).lost = 1) := by
  decide +kernel

end Sipmon.Guarantees.ReorderSet
