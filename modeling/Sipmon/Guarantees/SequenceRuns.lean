import Sipmon.Guarantees.SequenceLoss

/-!
# Exact loss of a consecutive run

A sender numbers its packets consecutively, through `u16` any number of times.
Delivered in an order that stays inside the reorder window and skips at most the
restart window, they leave exactly the packets that were dropped below the
highest delivered one as lost.
-/
namespace Sipmon.Guarantees.SequenceRuns
open Lib Lib.BitWindow Source SequenceLoss

/-- A packet that arrives, by its place in the run. -/
structure Delivery where
  place : Nat
  arrivalMicros : UInt64
  header : RtpHeader

def places (deliveries : List Delivery) : List Nat := deliveries.map Delivery.place

/-- The highest place delivered. -/
def highest (deliveries : List Delivery) : Nat := (places deliveries).foldl max 0

/-- The packets of a run from `start`, as the network may deliver them. -/
structure Delivers (start : UInt16) (deliveries : List Delivery) : Prop where
  numbered : ∀ p ∈ deliveries, p.header.sequenceNumber = start + UInt16.ofNat p.place
  once : (places deliveries).Nodup
  first : (places deliveries).head? = some 0
  /-- No packet arrives after one sent more than 64 places later. -/
  ordered : (places deliveries).Pairwise fun early late => early ≤ late + 64
  /-- No arrival lies more than the restart window ahead of the highest one before it. -/
  ahead : Run.Along max (fun top place => place ≤ top + 4096) 0 (places deliveries)

def observeAll (deliveries : List Delivery) : MediaStatsAccumulator :=
  deliveries.foldl (fun acc p => acc.observe p.arrivalMicros p.header) {}

/-- The dropped places below the highest delivered one. -/
def dropped (deliveries : List Delivery) : Nat :=
  Nat.count (fun place => place ∉ places deliveries) (highest deliveries)

/-! ## Places and numbers -/

theorem number_ahead (start : UInt16) (head d : Nat) (small : d < 65536) :
    (start + UInt16.ofNat (head + d) - (start + UInt16.ofNat head)).toNat = d := by
  have bound := start.toNat_lt
  rw [UInt16.toNat_sub, UInt16.toNat_add, UInt16.toNat_add, UInt16.toNat_ofNat', UInt16.toNat_ofNat']
  omega

theorem highest_snoc (before : List Delivery) (p : Delivery) :
    highest (before ++ [p]) = max (highest before) p.place := by
  unfold highest places
  rw [List.map_append, List.foldl_append]
  rfl

theorem le_highest {deliveries : List Delivery} {place : Nat} (delivered : place ∈ places deliveries) :
    place ≤ highest deliveries := by
  induction deliveries using List.reverseRecOn with
  | nil => cases delivered
  | append_singleton before p ih =>
    rw [highest_snoc]
    unfold places at delivered
    rw [List.map_append, List.mem_append] at delivered
    rcases delivered with earlier | last
    · exact Nat.le_trans (ih earlier) (Nat.le_max_left _ _)
    · rw [List.mem_singleton.mp last]
      exact Nat.le_max_right _ _

theorem highest_mem {deliveries : List Delivery} (some_ : deliveries ≠ []) :
    highest deliveries ∈ places deliveries := by
  induction deliveries using List.reverseRecOn with
  | nil => exact absurd rfl some_
  | append_singleton before p ih =>
    rw [highest_snoc]
    unfold places
    rw [List.map_append, List.mem_append]
    by_cases none : before = []
    · subst none
      right
      change max 0 p.place ∈ [p.place]
      simp
    · rcases Nat.le_total (highest before) p.place with below | above
      · right
        rw [Nat.max_eq_right below]
        exact List.mem_singleton.mpr rfl
      · left
        rw [Nat.max_eq_left above]
        exact ih none

theorem Delivers.before {start : UInt16} {before : List Delivery} {p : Delivery}
    (delivers : Delivers start (before ++ [p])) (some_ : before ≠ []) : Delivers start before := by
  obtain ⟨numbered, once, first, ordered, ahead⟩ := delivers
  unfold places at once first ordered ahead
  rw [List.map_append] at once first ordered ahead
  refine ⟨fun q early => numbered q (List.mem_append_left _ early), (List.nodup_append.mp once).1, ?_,
    (List.pairwise_append.mp ordered).1, ((Run.along_append _ _ _).mp ahead).1⟩
  rwa [List.head?_append_of_ne_nil _ (by simpa using some_)] at first

theorem mem_places_snoc {before : List Delivery} {p : Delivery} {place : Nat} :
    place ∈ places (before ++ [p]) ↔ place ∈ places before ∨ place = p.place := by
  unfold places
  rw [List.map_append, List.mem_append]
  simp

/-! ## One arrival -/

/-- The statistics of a delivered prefix: the window marks the missing places
behind the highest one, and the figure counts all of them. -/
structure Tracked (start : UInt16) (deliveries : List Delivery) (acc : MediaStatsAccumulator) : Prop where
  started : acc.firstSequence.isSome
  last : acc.lastSequence = some (start + UInt16.ofNat (highest deliveries))
  window : ∀ i < 64, acc.pendingMask.getLsbD i = true ↔
    i < highest deliveries ∧ highest deliveries - 1 - i ∉ places deliveries
  figure : figure acc = dropped deliveries

theorem tracked_first (start : UInt16) (p : Delivery) (numbered : p.header.sequenceNumber = start)
    (place : p.place = 0) : Tracked start [p] (({} : MediaStatsAccumulator).observe p.arrivalMicros p.header) := by
  have step := (ordering_observe {} p.arrivalMicros p.header).trans (observeSequence_first rfl _)
  obtain ⟨first, last, lost, mask⟩ := Arrivals.mk.inj step
  have top : highest [p] = 0 := by
    change max 0 p.place = 0
    rw [place]
    rfl
  refine ⟨by rw [first]; rfl, ?_, fun i _ => ?_, ?_⟩
  · rw [last, top, numbered]
    exact congrArg some (UInt16.add_zero start).symm
  · rw [mask, top]
    simp
  · rw [figure_eq, lost, mask, ones_zero, dropped, top, Nat.count_zero]

/-- A packet ahead of the highest one marks what it skips. -/
theorem tracked_ahead {start : UInt16} {before : List Delivery} {acc : MediaStatsAccumulator} {p : Delivery}
    (tracked : Tracked start before acc) (some_ : before ≠ [])
    (numbered : p.header.sequenceNumber = start + UInt16.ofNat p.place)
    (higher : highest before < p.place) (near : p.place ≤ highest before + 4096) :
    Tracked start (before ++ [p]) (acc.observe p.arrivalMicros p.header) := by
  obtain ⟨started, last, window, figured⟩ := tracked
  obtain ⟨d, reached⟩ := Nat.exists_eq_add_of_lt higher
  have top : highest (before ++ [p]) = highest before + (d + 1) := by
    rw [highest_snoc, Nat.max_eq_right (Nat.le_of_lt higher), reached, Nat.add_assoc]
  have distance : (p.header.sequenceNumber - (start + UInt16.ofNat (highest before))).toNat = d + 1 := by
    rw [numbered, reached, Nat.add_assoc]
    exact number_ahead start (highest before) (d + 1) (by omega)
  have step := observeSequence_next started last p.header.sequenceNumber
  rw [distance, if_neg (Nat.succ_ne_zero d), if_pos (by omega)] at step
  have same := ordering_observe acc p.arrivalMicros p.header
  rw [step] at same
  have advances : 0 < d + 1 := Nat.succ_pos d
  have inside : d + 1 ≤ rtpRestartWindow := by
    unfold rtpRestartWindow
    omega
  obtain ⟨first', last', lost', mask'⟩ := Arrivals.mk.inj same
  have forwarded : (acc.forward p.header.sequenceNumber (d + 1)).firstSequence = acc.firstSequence ∧
      (acc.forward p.header.sequenceNumber (d + 1)).lastSequence = some p.header.sequenceNumber := by
    unfold MediaStatsAccumulator.forward
    split <;> exact ⟨rfl, rfl⟩
  refine ⟨by rw [first', forwarded.1]; exact started, ?_, fun i below => ?_, ?_⟩
  · rw [last', forwarded.2, numbered, top, reached, Nat.add_assoc]
  · rw [mask', forward_mask acc _ advances inside below, top, mem_places_snoc, Nat.add_sub_cancel]
    rcases Nat.lt_trichotomy i d with gap | head | old
    · have unseen : highest before + (d + 1) - 1 - i ∉ places before :=
        fun seen => absurd (le_highest seen) (by omega)
      have other : highest before + (d + 1) - 1 - i ≠ p.place := by omega
      simp only [gap, decide_true, Bool.true_or, true_iff]
      exact ⟨by omega, fun either => either.elim unseen other⟩
    · subst head
      have seen : highest before + (i + 1) - 1 - i ∈ places before := by
        rw [show highest before + (i + 1) - 1 - i = highest before by omega]
        exact highest_mem some_
      simp only [Nat.lt_irrefl, decide_false, Nat.not_succ_le_self, Bool.false_or, Bool.false_and,
        Bool.false_eq_true, false_iff]
      exact fun both => both.2 (Or.inl seen)
    · have shifted := window (i - (d + 1)) (by omega)
      rw [show highest before - 1 - (i - (d + 1)) = highest before + (d + 1) - 1 - i by omega] at shifted
      have other : highest before + (d + 1) - 1 - i ≠ p.place := by omega
      simp only [Nat.not_lt.mpr (Nat.le_of_lt old), decide_false, Bool.false_or,
        show d + 1 ≤ i from old, decide_true, Bool.true_and]
      rw [shifted]
      constructor
      · exact fun ⟨_, unseen⟩ => ⟨by omega, fun either => either.elim unseen other⟩
      · exact fun ⟨_, neither⟩ => ⟨by omega, fun seen => neither (Or.inl seen)⟩
  · rw [figure_congr same, forward_figure acc _ advances inside, figured, Nat.add_sub_cancel]
    unfold dropped
    rw [top]
    refine (count_extend (fun place under => ?_) ?_ fun place above under => ?_).symm
    · rw [mem_places_snoc]
      exact ⟨fun neither seen => neither (Or.inl seen), fun unseen either =>
        either.elim unseen fun last => absurd last (by omega)⟩
    · rw [not_not, mem_places_snoc]
      exact Or.inl (highest_mem some_)
    · rw [mem_places_snoc]
      rintro (seen | last)
      · exact absurd (le_highest seen) (by omega)
      · omega

/-- A packet behind it takes its mark back. -/
theorem tracked_behind {start : UInt16} {before : List Delivery} {acc : MediaStatsAccumulator} {p : Delivery}
    (tracked : Tracked start before acc)
    (numbered : p.header.sequenceNumber = start + UInt16.ofNat p.place)
    (fresh : p.place ∉ places before) (lower : p.place < highest before)
    (near : highest before ≤ p.place + 64) :
    Tracked start (before ++ [p]) (acc.observe p.arrivalMicros p.header) := by
  obtain ⟨started, last, window, figured⟩ := tracked
  obtain ⟨age, back⟩ := Nat.exists_eq_add_of_lt lower
  have top : highest (before ++ [p]) = highest before := by
    rw [highest_snoc, Nat.max_eq_left (Nat.le_of_lt lower)]
  have distance : (start + UInt16.ofNat (highest before) - p.header.sequenceNumber).toNat = age + 1 := by
    rw [numbered, back, Nat.add_assoc]
    exact number_ahead start p.place (age + 1) (by omega)
  have behind := distance_back (start + UInt16.ofNat (highest before)) p.header.sequenceNumber (by omega)
  have step := observeSequence_next started last p.header.sequenceNumber
  rw [behind, distance, if_neg (by omega), if_neg (by omega)] at step
  have same := ordering_observe acc p.arrivalMicros p.header
  rw [step] at same
  have inside : 0 < age + 1 ∧ age + 1 ≤ rtpReorderWindow := by
    unfold rtpReorderWindow
    omega
  obtain ⟨first', last', lost', mask'⟩ := Arrivals.mk.inj same
  have kept : (acc.reordered (age + 1)).firstSequence = acc.firstSequence ∧
      (acc.reordered (age + 1)).lastSequence = acc.lastSequence := by
    unfold MediaStatsAccumulator.reordered
    split <;> exact ⟨rfl, rfl⟩
  refine ⟨by rw [first', kept.1]; exact started, ?_, fun i below => ?_, ?_⟩
  · rw [last', kept.2, top, last]
  · rw [mask', reordered_mask acc inside, top, mem_places_snoc, Nat.add_sub_cancel]
    simp only [Bool.and_eq_true, bne_iff_ne, ne_eq, window i below, not_or]
    constructor
    · exact fun ⟨⟨under, unseen⟩, other⟩ => ⟨under, unseen, by omega⟩
    · exact fun ⟨under, unseen, other⟩ => ⟨⟨under, unseen⟩, by omega⟩
  · have place : highest before - 1 - age = p.place := by omega
    have marked : acc.pendingMask.getLsbD age = true := by
      rw [window age (by omega), place]
      exact ⟨by omega, fresh⟩
    have moved := reordered_figure acc (age + 1)
    rw [if_pos ⟨inside, marked⟩, figured] at moved
    have removed := count_remove (fun place => place ∉ places before) lower fresh
    have left : dropped (before ++ [p]) =
        Nat.count (fun place => place ∉ places before ∧ place ≠ p.place) (highest before) := by
      unfold dropped
      rw [top]
      exact count_congr fun place _ => by rw [mem_places_snoc, not_or]
    rw [figure_congr same, left]
    unfold dropped at moved
    omega

/-! ## Runs -/

theorem tracked_observeAll {start : UInt16} {deliveries : List Delivery}
    (delivers : Delivers start deliveries) : Tracked start deliveries (observeAll deliveries) := by
  induction deliveries using List.reverseRecOn with
  | nil => cases delivers.first
  | append_singleton before p ih =>
    have numbered := delivers.numbered p (by simp)
    have step : observeAll (before ++ [p]) = (observeAll before).observe p.arrivalMicros p.header := by
      unfold observeAll
      rw [List.foldl_append]
      rfl
    rw [step]
    by_cases none : before = []
    · subst none
      have place : p.place = 0 := Option.some.inj delivers.first
      rw [place, show UInt16.ofNat 0 = 0 from rfl, UInt16.add_zero] at numbered
      exact tracked_first start p numbered place
    · have tracked := ih (delivers.before none)
      have fresh : p.place ∉ places before := by
        have once := delivers.once
        unfold places at once
        rw [List.map_append, List.nodup_append] at once
        exact fun early => once.2.2 _ early _ (by simp) rfl
      have differs : p.place ≠ highest before := fun same => fresh (same ▸ highest_mem none)
      rcases Nat.lt_or_gt_of_ne differs with lower | higher
      · have ordered := delivers.ordered
        unfold places at ordered
        rw [List.map_append, List.pairwise_append] at ordered
        have near := ordered.2.2 _ (highest_mem none) p.place (by simp)
        exact tracked_behind tracked numbered fresh lower near
      · have ahead := delivers.ahead
        unfold places at ahead
        rw [List.map_append] at ahead
        exact tracked_ahead tracked none numbered higher ((Run.along_append _ _ _).mp ahead).2.1

/-- The loss shown is exactly the dropped places below the highest delivered one;
a run delivered without drops shows none, in whatever order within the window. -/
theorem loss_is_exact (start : UInt16) (deliveries : List Delivery) (delivers : Delivers start deliveries) :
    (observeAll deliveries).snapshot.lostPackets = dropped deliveries ∧
      ((∀ place < highest deliveries, place ∈ places deliveries) →
        (observeAll deliveries).snapshot.lostPackets = 0) := by
  have exact_ : (observeAll deliveries).snapshot.lostPackets = dropped deliveries :=
    (tracked_observeAll delivers).figure
  refine ⟨exact_, fun whole => ?_⟩
  rw [exact_, dropped, Nat.count_iff_forall_not]
  exact fun place below missing => missing (whole place below)

/-- Five packets of a run that wraps behind its second number, one late and one dropped. -/
def wrapped : List Delivery :=
  [⟨0, 0, numbered 65534⟩, ⟨2, 40000, numbered 0⟩, ⟨1, 41000, numbered 65535⟩, ⟨4, 80000, numbered 2⟩,
    ⟨5, 100000, numbered 3⟩]

theorem loss_is_exact_wrapped :
    (observeAll wrapped).snapshot.lostPackets = dropped wrapped ∧
      ((∀ place < highest wrapped, place ∈ places wrapped) →
        (observeAll wrapped).snapshot.lostPackets = 0) :=
  loss_is_exact 65534 wrapped ⟨by decide, by decide, rfl, by decide, by decide⟩

end Sipmon.Guarantees.SequenceRuns
