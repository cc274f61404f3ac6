import Mathlib.Algebra.BigOperators.Group.List.Basic
import Mathlib.Algebra.Order.Ring.Nat
import Mathlib.Data.List.Range
import Sipmon.Source.SipStats

/-!
# The answer-rate rings

A ring holds one bucket per width, without a gap, as long as time does not go
back. While the whole ring spans at most the retention, a bump drops nothing:
the totals of the ring grow by what is added.
-/
namespace Sipmon.Guarantees.SignalingSeries
open Source
open SipIpStats (seriesBuckets)

/-- Invites and answers over a ring. -/
def totals (ring : List (Nat × Nat × Nat)) : Nat × Nat :=
  ((ring.map fun e => e.2.1).sum, (ring.map fun e => e.2.2).sum)

theorem totals_append (a b : List (Nat × Nat × Nat)) :
    totals (a ++ b) = ((totals a).1 + (totals b).1, (totals a).2 + (totals b).2) := by
  simp only [totals, List.map_append, List.sum_append]

theorem seriesTotals_eq (s : SipIpStats) (bucketSecs : Nat) :
    s.seriesTotals bucketSecs = totals (s.series bucketSecs) := by
  have folded : ∀ (ring : List (Nat × Nat × Nat)) (sum : Nat × Nat),
      ring.foldl (fun sum e => (sum.1 + e.2.1, sum.2 + e.2.2)) sum =
        (sum.1 + (totals ring).1, sum.2 + (totals ring).2) := by
    intro ring
    induction ring with
    | nil => exact fun sum => rfl
    | cons e rest ih =>
      intro sum
      rw [List.foldl_cons, ih]
      simp only [totals, List.map_cons, List.sum_cons, Nat.add_assoc]
  have summed : s.seriesTotals bucketSecs =
      (s.series bucketSecs).foldl (fun sum e => (sum.1 + e.2.1, sum.2 + e.2.2)) (0, 0) := rfl
  rw [summed, folded, Nat.zero_add, Nat.zero_add]

/-! ## One ring -/

/-- A ring without gaps from a bucket on. -/
def Gapless (width start : Nat) (ring : List (Nat × Nat × Nat)) : Prop :=
  ring.map Prod.fst = (List.range' start ring.length).map (· * width)

theorem gapless_append {width start : Nat} {a b : List (Nat × Nat × Nat)} (first : Gapless width start a)
    (second : Gapless width (start + a.length) b) : Gapless width start (a ++ b) := by
  have keys : List.range' start (a ++ b).length =
      List.range' start a.length ++ List.range' (start + a.length) b.length := by
    rw [List.length_append, ← List.range'_append, Nat.one_mul]
  rw [Gapless, keys, List.map_append, List.map_append, first, second]

/-- The last bucket of a gapless ring. -/
theorem gapless_back {width start : Nat} {front : List (Nat × Nat × Nat)} {e : Nat × Nat × Nat}
    (gapless : Gapless width start (front ++ [e])) : e.1 = (start + front.length) * width := by
  have last := congrArg (fun l => l[front.length]?) gapless
  simpa using last

/-- A gapless ring of buckets between two. -/
def Dense (width lo hi : Nat) (ring : List (Nat × Nat × Nat)) : Prop :=
  ∃ start, lo ≤ start ∧ start + ring.length ≤ hi + 1 ∧ Gapless width start ring

theorem Dense.later {width lo hi next : Nat} {ring : List (Nat × Nat × Nat)}
    (dense : Dense width lo hi ring) (forward : hi ≤ next) : Dense width lo next ring := by
  obtain ⟨start, after, before, keys⟩ := dense
  exact ⟨start, after, by omega, keys⟩

theorem dense_nil {width lo hi : Nat} (forward : lo ≤ hi) : Dense width lo hi [] :=
  ⟨lo, Nat.le_refl lo, Nat.le_succ_of_le forward, rfl⟩

theorem dense_single {width lo hi : Nat} (forward : lo ≤ hi) (inv ans : Nat) :
    Dense width lo hi [(hi * width, inv, ans)] := ⟨hi, forward, Nat.le_refl _, rfl⟩

/-- Buckets without traffic. -/
def blanks (width start n : Nat) : List (Nat × Nat × Nat) :=
  (List.range' start n).map fun i => (i * width, 0, 0)

theorem totals_blanks (width start n : Nat) : totals (blanks width start n) = (0, 0) := by
  simp [totals, blanks, Function.comp_def]

theorem gapless_blanks (width start n : Nat) : Gapless width start (blanks width start n) := by
  rw [Gapless, blanks, List.map_map, List.length_map, List.length_range']
  rfl

/-- The gap up to the new bucket is filled as far as there is room. -/
theorem fillGaps_min {width : Nat} (positive : 0 < width) (gap start fuel : Nat)
    (ring : List (Nat × Nat × Nat)) (enough : gap ≤ fuel) :
    fillGaps width ((start + gap) * width) fuel (start * width) ring =
      ring ++ blanks width start (min gap (seriesRetain - ring.length)) := by
  induction fuel generalizing gap start ring with
  | zero =>
    obtain rfl : gap = 0 := Nat.le_zero.mp enough
    rw [Nat.zero_min]
    exact (List.append_nil ring).symm
  | succ fuel ih =>
    rw [fillGaps]
    cases gap with
    | zero =>
      rw [Nat.add_zero, if_neg fun both => Nat.lt_irrefl _ both.1, Nat.zero_min]
      exact (List.append_nil ring).symm
    | succ gap =>
      have behind : start * width < (start + (gap + 1)) * width :=
        Nat.mul_lt_mul_of_pos_right (by omega) positive
      have next : start * width + width = (start + 1) * width := (Nat.succ_mul start width).symm
      have same : start + (gap + 1) = start + 1 + gap := by omega
      by_cases room : ring.length < seriesRetain
      · have left : min (gap + 1) (seriesRetain - ring.length) =
            min gap (seriesRetain - (ring ++ [(start * width, 0, 0)]).length) + 1 := by
          rw [List.length_append, List.length_singleton]
          omega
        rw [if_pos ⟨behind, room⟩, next, same, ih gap (start + 1) _ (by omega), List.append_assoc, left]
        rfl
      · have full : min (gap + 1) (seriesRetain - ring.length) = 0 := by omega
        rw [if_neg fun both => room both.2, full]
        exact (List.append_nil ring).symm

/-- With room for all of it, the gap up to the new bucket is filled. -/
theorem fillGaps_eq {width : Nat} (positive : 0 < width) (gap start fuel : Nat)
    (ring : List (Nat × Nat × Nat)) (enough : gap ≤ fuel) (room : ring.length + gap ≤ seriesRetain) :
    fillGaps width ((start + gap) * width) fuel (start * width) ring =
      ring ++ blanks width start gap := by
  rw [fillGaps_min positive gap start fuel ring enough, Nat.min_eq_left (by omega)]

theorem modify_back {α : Type} (front : List α) (e : α) (f : α → α) :
    (front ++ [e]).modify ((front ++ [e]).length - 1) f = front ++ [f e] := by
  rw [List.length_append, List.length_singleton, Nat.add_sub_cancel]
  induction front with
  | nil => rfl
  | cons a rest ih => exact congrArg (List.cons a) ih

/-- A bump in the bucket at the end. -/
theorem dense_merge {width lo hi inv ans : Nat} {front : List (Nat × Nat × Nat)} {e : Nat × Nat × Nat}
    (dense : Dense width lo hi (front ++ [e])) :
    Dense width lo hi (front ++ [(e.1, e.2.1 + inv, e.2.2 + ans)]) ∧
      totals (front ++ [(e.1, e.2.1 + inv, e.2.2 + ans)]) =
        ((totals (front ++ [e])).1 + inv, (totals (front ++ [e])).2 + ans) := by
  obtain ⟨start, after, before, gapless⟩ := dense
  refine ⟨⟨start, after, ?_, ?_⟩, ?_⟩
  · rwa [List.length_append, List.length_singleton] at before ⊢
  · unfold Gapless at gapless ⊢
    rwa [List.map_append, List.length_append, List.length_singleton] at gapless ⊢
  · rw [totals_append, totals_append]
    simp only [totals, List.map_cons, List.map_nil, List.sum_cons, List.sum_nil, Nat.add_zero,
      Nat.add_assoc]

/-- A bump in a later bucket, with the gap filled. -/
theorem dense_extend {width lo start : Nat} {ring : List (Nat × Nat × Nat)} (after : lo ≤ start)
    (gapless : Gapless width start ring) (gap inv ans : Nat) :
    Dense width lo (start + ring.length + gap)
        (ring ++ blanks width (start + ring.length) gap ++ [((start + ring.length + gap) * width, inv, ans)]) ∧
      totals (ring ++ blanks width (start + ring.length) gap ++
        [((start + ring.length + gap) * width, inv, ans)]) = ((totals ring).1 + inv, (totals ring).2 + ans) := by
  have length : (ring ++ blanks width (start + ring.length) gap).length = ring.length + gap := by
    rw [List.length_append, blanks, List.length_map, List.length_range']
  have filled := gapless_append gapless (gapless_blanks width (start + ring.length) gap)
  refine ⟨⟨start, after, ?_, ?_⟩, ?_⟩
  · rw [List.length_append, length, List.length_singleton]
    omega
  · refine gapless_append filled ?_
    rw [length, ← Nat.add_assoc]
    rfl
  · rw [totals_append, totals_append, totals_blanks]
    simp [totals]

/-- A bump at a bucket that is not behind the ring, within its retention, is kept:
the ring stays gapless and its totals grow by the bump. -/
theorem dense_ringBump {width lo hi : Nat} {ring : List (Nat × Nat × Nat)} (positive : 0 < width)
    {ts : UInt64} (dense : Dense width lo hi ring) (forward : hi ≤ ts.toNat / width)
    (later : lo ≤ ts.toNat / width) (soon : ts.toNat / width < lo + seriesRetain) (inv ans : Nat) :
    Dense width lo (ts.toNat / width) (ringBump ring width ts inv ans) ∧
      totals (ringBump ring width ts inv ans) = ((totals ring).1 + inv, (totals ring).2 + ans) := by
  unfold ringBump
  dsimp only
  generalize ts.toNat / width = bucket at forward later soon ⊢
  have dense := dense.later forward
  split
  · next nothing =>
    rw [nothing.1, nothing.2]
    exact ⟨dense, rfl⟩
  · split
    · next empty =>
      obtain rfl := List.getLast?_eq_none_iff.mp empty
      exact ⟨dense_single later inv ans, by simp [totals]⟩
    · next lastKey i a found =>
      obtain ⟨front, rfl⟩ := List.getLast?_eq_some_iff.mp found
      obtain ⟨start, after, before, gapless⟩ := id dense
      have last : lastKey = (start + front.length) * width := gapless_back gapless
      have length : (front ++ [(lastKey, i, a)]).length = front.length + 1 := by
        rw [List.length_append, List.length_singleton]
      rw [length] at before
      split
      · rw [modify_back]
        exact dense_merge dense
      · next apart =>
        have other : start + front.length ≠ bucket := fun same => apart (by rw [last, same])
        obtain ⟨gap, rfl⟩ : ∃ gap, bucket = start + (front.length + 1) + gap :=
          Nat.exists_eq_add_of_le (by omega)
        have behind : lastKey < (start + (front.length + 1) + gap) * width := by
          rw [last]
          exact Nat.mul_lt_mul_of_pos_right (by omega) positive
        have near : ¬width * seriesRetain < (start + (front.length + 1) + gap) * width - lastKey := by
          rw [last, ← Nat.sub_mul, Nat.mul_comm width]
          exact Nat.not_lt.mpr (Nat.mul_le_mul_right width (by omega))
        have next : lastKey + width = (start + (front.length + 1)) * width := by
          rw [last, ← Nat.add_assoc, Nat.succ_mul]
        have filled := fillGaps_eq positive gap (start + (front.length + 1)) seriesRetain
          (front ++ [(lastKey, i, a)]) (by omega) (by omega)
        have extended := dense_extend after gapless gap inv ans
        rw [length] at extended
        have kept : (front ++ [(lastKey, i, a)] ++
            blanks width (start + (front.length + 1)) gap).length + 1 - seriesRetain = 0 := by
          rw [List.length_append, length, blanks, List.length_map, List.length_range']
          omega
        rw [if_pos behind, if_neg near, next, filled, kept, List.drop_zero]
        exact extended

/-! ## One row -/

/-- A time within 60 one-minute buckets from the bucket `base` on. -/
def InWindow (base : Nat) (tsUs : UInt64) : Prop :=
  base ≤ tsUs.toNat / m1Us ∧ tsUs.toNat / m1Us < base + seriesRetain

/-- The three rings of a row are gapless, from the bucket `base` on, and hold so
many invites and answers each. -/
def Steady (base nowUs : Nat) (s : SipIpStats) (inv ans : Nat) : Prop :=
  ∀ secs ∈ seriesBuckets,
    Dense (secs * 1000000) (base * m1Us / (secs * 1000000)) (nowUs / (secs * 1000000)) (s.series secs) ∧
      totals (s.series secs) = (inv, ans)

theorem Steady.later {base nowUs nextUs inv ans : Nat} {s : SipIpStats} (steady : Steady base nowUs s inv ans)
    (forward : nowUs ≤ nextUs) : Steady base nextUs s inv ans := fun secs listed =>
  ⟨(steady secs listed).1.later (Nat.div_le_div_right forward), (steady secs listed).2⟩

/-- What the rings show is all that is needed. -/
theorem Steady.congr {base nowUs inv ans : Nat} {s t : SipIpStats} (steady : Steady base nowUs s inv ans)
    (same : t.series = s.series) : Steady base nowUs t inv ans := by
  unfold Steady
  rw [same]
  exact steady

theorem steady_empty {base nowUs : Nat} (forward : base * m1Us ≤ nowUs) :
    Steady base nowUs {} 0 0 := by
  intro secs listed
  have blank : SipIpStats.series {} secs = [] := by
    unfold SipIpStats.series
    split <;> rfl
  rw [blank]
  exact ⟨dense_nil (Nat.div_le_div_right forward), rfl⟩

theorem series_bumpSeries (s : SipIpStats) (tsUs : UInt64) (inv ans : Nat) {secs : Nat}
    (listed : secs ∈ seriesBuckets) :
    (s.bumpSeries tsUs inv ans).series secs = ringBump (s.series secs) (secs * 1000000) tsUs inv ans := by
  rcases List.mem_cons.mp listed with rfl | listed
  · rfl
  · rcases List.mem_cons.mp listed with rfl | listed
    · rfl
    · rw [List.mem_singleton.mp listed]
      rfl

/-- A minute bucket in the window lies in the window of every width. -/
theorem inWindow_width {base : Nat} {tsUs : UInt64} (inside : InWindow base tsUs) {secs : Nat}
    (listed : secs ∈ seriesBuckets) :
    base * m1Us / (secs * 1000000) ≤ tsUs.toNat / (secs * 1000000) ∧
      tsUs.toNat / (secs * 1000000) < base * m1Us / (secs * 1000000) + seriesRetain := by
  obtain ⟨after, before⟩ := inside
  unfold m1Us at after before ⊢
  unfold seriesRetain at before ⊢
  simp only [seriesBuckets, List.mem_cons, List.not_mem_nil, or_false] at listed
  rcases listed with rfl | rfl | rfl <;> omega

/-- A bump in the window is kept by all three rings. -/
theorem steady_bumpSeries {base nowUs invites answers : Nat} {s : SipIpStats}
    (steady : Steady base nowUs s invites answers) {tsUs : UInt64} (forward : nowUs ≤ tsUs.toNat)
    (inside : InWindow base tsUs) (inv ans : Nat) :
    Steady base tsUs.toNat (s.bumpSeries tsUs inv ans) (invites + inv) (answers + ans) := by
  intro secs listed
  obtain ⟨dense, held⟩ := steady secs listed
  obtain ⟨later, soon⟩ := inWindow_width inside listed
  have positive : 0 < secs * 1000000 := by
    simp only [seriesBuckets, List.mem_cons, List.not_mem_nil, or_false] at listed
    omega
  have bumped := dense_ringBump positive dense (Nat.div_le_div_right forward) later soon inv ans
  rw [held] at bumped
  rw [series_bumpSeries s tsUs inv ans listed]
  exact bumped

end Sipmon.Guarantees.SignalingSeries
