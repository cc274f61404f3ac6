import Mathlib.Algebra.Group.Prod
import Mathlib.Algebra.Order.BigOperators.Group.List
import Mathlib.Data.UInt
import Sipmon.Guarantees.IpWindows

/-!
# The loss heatmap of an IP

The heatmap of a window groups the one-second ring into columns. It groups all of
the ring, whatever the window: how many columns there are, and how far back they
reach, depends on how much the ring holds, and a window of more than ten minutes
is not in the ring at all. The columns cover the window exactly when the ring
spans no more than it. What the columns add up has to fit into 64 bits.
-/
namespace Sipmon.Guarantees.LossHeatmap
open Lib.BucketRing Source IpWindows

/-- The second of a sample. -/
def second (a : Sample) : Nat := Resolution.second.bucket a

/-- Seconds per column. -/
def group (windowSecs cols : Nat) : Nat := max (windowSecs / cols) 1

theorem group_pos (windowSecs cols : Nat) : 0 < group windowSecs cols :=
  Nat.lt_of_lt_of_le Nat.one_pos (Nat.le_max_right _ 1)

/-- Packets and lost packets of a bucket, both directions. -/
def load : Bucket →+ UInt64 × UInt64 where
  toFun b := (b.packets, b.lost)
  map_zero' := rfl
  map_add' a b := by
    simp only [add_eq, Bucket.packets, Bucket.lost, Prod.mk_add_mk]
    rw [add_add_add_comm, add_add_add_comm a.lostTx]

theorem load_eq (b : Bucket) : load b = (b.packets, b.lost) := rfl

/-- The retained samples in the group of a second. -/
def merged (g k : Nat) (samples : List Sample) : List Sample :=
  samples.filter fun a => second a / g == k / g &&
    decide (Resolution.second.newest samples < second a + sec1Retain)

/-- A loss of so many packets, in percent. -/
def lossPct (packets lost : Nat) : F64 :=
  if packets = 0 then 0 else F64.ofNat lost / F64.ofNat packets * 100

/-- The column of a second, with the loss of its group. -/
def columnOf (g k : Nat) (samples : List Sample) : Nat × F64 :=
  (k / g * g * 1000000,
    lossPct (exactSum Bucket.packets (merged g k samples)) (exactSum Bucket.lost (merged g k samples)))

/-- All packets and all losses fit into 64 bits. -/
def Fits (samples : List Sample) : Prop :=
  exactSum Bucket.packets samples < 2 ^ 64 ∧ exactSum Bucket.lost samples < 2 ^ 64

/-- Whether a column stands for a second. -/
def standsFor (g k : Nat) (column : Nat × F64) : Bool :=
  decide (column.1 ≤ k * 1000000 ∧ k * 1000000 < column.1 + g * 1000000)

/-- The columns cover the last `windowSecs` seconds up to the newest sample: one
more than asked for at most, each second with traffic retained and in exactly one
column with the loss of its group, no column before the window. -/
structure Covers (windowSecs cols : Nat) (samples : List Sample) (s : IpStats) : Prop where
  few : (s.heatmapColumns windowSecs cols).length ≤ cols + 1
  represented : ∀ a ∈ counted samples,
    Resolution.second.newest samples < second a + windowSecs →
      second a ∈ s.sec1.map Prod.fst ∧
        (s.heatmapColumns windowSecs cols).filter (standsFor (group windowSecs cols) (second a)) =
          [columnOf (group windowSecs cols) (second a) samples]
  recent : ∀ column ∈ s.heatmapColumns windowSecs cols,
    Resolution.second.newest samples + 1 <
      column.1 / 1000000 + group windowSecs cols + windowSecs

/-- The ring spans at most so many groups, its oldest group reaches into the
window, and no sample of the window is older than the ring. -/
def Spans (windowSecs cols : Nat) (samples : List Sample) (ring : List (Nat × Bucket)) : Prop :=
  ∀ oldest ∈ ring.head?.map Prod.fst, ∀ newest ∈ ring.getLast?.map Prod.fst,
    let g := group windowSecs cols
    newest / g - oldest / g ≤ cols ∧ newest + 1 < oldest / g * g + g + windowSecs ∧
      ∀ a ∈ counted samples, newest < second a + windowSecs → oldest ≤ second a

/-! ## Columns -/

section Columns

variable {start n : Nat} {content : Nat → UInt64 × UInt64}

/-- An addition to a row of columns, in it or right behind it. -/
theorem columnAdd_layout (j : Nat) (packets lost : UInt64) (after : start ≤ j) (before : j ≤ start + n) :
    IpStats.columnAdd j packets lost (layout 1 start n content) =
      layout 1 start (max n (j + 1 - start)) fun i =>
        (if i < start + n then content i else 0) + if i = j then (packets, lost) else 0 := by
  induction n generalizing start with
  | zero =>
    obtain rfl : j = start := by omega
    have one : max 0 (j + 1 - j) = 0 + 1 := by omega
    rw [one, layout_cons]
    simp [layout, IpStats.columnAdd]
  | succ n ih =>
    rw [layout_cons, Nat.mul_one, IpStats.columnAdd]
    by_cases own : start = j
    · subst own
      have same : max (n + 1) (start + 1 - start) = n + 1 := by omega
      rw [if_pos rfl, same, layout_cons, Nat.mul_one, if_pos rfl, if_pos (by omega)]
      refine congrArg (List.cons _) (layout_congr fun i above below => ?_)
      rw [if_pos (by omega), if_neg (by omega), add_zero]
    · have longer : max (n + 1) (j + 1 - start) = max n (j + 1 - (start + 1)) + 1 := by omega
      rw [if_neg own, if_neg (by omega), ih (by omega) (by omega), longer, layout_cons, Nat.mul_one,
        if_neg own, if_pos (by omega), add_zero]
      refine congrArg (List.cons _) (layout_congr fun i _ _ => ?_)
      rw [Nat.add_right_comm start 1 n, Nat.add_assoc start n 1]

end Columns

/-- What the columns of a row of seconds hold: each group from that of the oldest
second to that of the newest one, merged. -/
theorem columns_layout (g start n : Nat) (content : Nat → Bucket) (positive : 0 < g) :
    (layout 1 start (n + 1) content).foldl
        (fun map e => IpStats.columnAdd (e.1 / g) e.2.packets e.2.lost map) [] =
      layout 1 (start / g) ((start + n) / g - start / g + 1) fun j =>
        tally (fun e => e.1 / g == j) (fun e => load e.2) (layout 1 start (n + 1) content) := by
  have zero_row (k : Nat) : layout 1 k 0 content = [] := rfl
  induction n with
  | zero =>
    rw [layout_succ, zero_row, Nat.add_zero, Nat.sub_self, Nat.mul_one]
    simp only [List.nil_append, List.foldl_cons, List.foldl_nil, IpStats.columnAdd]
    simp [layout, tally, load_eq]
  | succ n ih =>
    have lower : start / g ≤ (start + n) / g := Nat.div_le_div_right (by omega)
    have next : (start + n) / g ≤ (start + (n + 1)) / g := Nat.div_le_div_right (by omega)
    have near : (start + (n + 1)) / g ≤ (start + n) / g + 1 := by
      rw [← Nat.add_div_right _ positive]
      exact Nat.div_le_div_right (by omega)
    rw [layout_succ, List.foldl_append, ih, List.foldl_cons, List.foldl_nil, Nat.mul_one]
    dsimp only
    rw [columnAdd_layout _ _ _ (by omega) (by omega)]
    have length : max ((start + n) / g - start / g + 1) ((start + (n + 1)) / g + 1 - start / g) =
        (start + (n + 1)) / g - start / g + 1 := by omega
    rw [length]
    refine layout_congr fun j _ _ => ?_
    have bucket := tally_bucket_concat (fun e : Nat × Bucket => e.1 / g) (fun e => load e.2)
      (layout 1 start (n + 1) content) (start + (n + 1), content (start + (n + 1))) j
    rw [bucket]
    congr 1
    split
    · rfl
    · next beyond =>
      refine (tally_eq_zero _ fun e member => ?_).symm
      obtain ⟨i, _, _, rfl⟩ := mem_layout.mp member
      have inside : i * 1 / g ≤ (start + n) / g := Nat.div_le_div_right (by omega)
      simp only [beq_eq_false_iff_ne]
      omega

/-- Sums that fit give the percentage of the counters. -/
theorem columnPct_ofNat {packets lost : Nat} (packetsFit : packets < 2 ^ 64) (lostFit : lost < 2 ^ 64) :
    IpStats.columnPct (.ofNat packets) (.ofNat lost) = lossPct packets lost := by
  have none_ : UInt64.ofNat packets = 0 ↔ packets = 0 := by
    rw [← UInt64.toNat_inj, UInt64.toNat_ofNat_of_lt' packetsFit]
    rfl
  rw [IpStats.columnPct, lossPct, UInt64.toNat_ofNat_of_lt' packetsFit, UInt64.toNat_ofNat_of_lt' lostFit]
  simp only [none_]

theorem exactSum_merged_le (part : Bucket → UInt64) (g k : Nat) (samples : List Sample) :
    exactSum part (merged g k samples) ≤ exactSum part samples :=
  List.Sublist.sum_le_sum (List.filter_sublist.map _) fun _ _ => Nat.zero_le _

/-- The percentage of a group, off the counters its samples add up to. -/
theorem columnPct_merged {samples : List Sample} (fits : Fits samples) (g k : Nat) :
    IpStats.columnPct (load ((merged g k samples).map Sample.amount).sum).1
        (load ((merged g k samples).map Sample.amount).sum).2 =
      lossPct (exactSum Bucket.packets (merged g k samples))
        (exactSum Bucket.lost (merged g k samples)) := by
  have packets := part_sum Bucket.packets rfl (fun a b => congrArg Prod.fst (load.map_add a b))
    (merged g k samples)
  have lost := part_sum Bucket.lost rfl (fun a b => congrArg Prod.snd (load.map_add a b))
    (merged g k samples)
  rw [load_eq, packets, lost]
  exact columnPct_ofNat (Nat.lt_of_le_of_lt (exactSum_merged_le _ g k samples) fits.1)
    (Nat.lt_of_le_of_lt (exactSum_merged_le _ g k samples) fits.2)

/-- The columns of an exact ring, one for each group it touches. -/
theorem heatmapColumns_eq (cols : Nat) {windowSecs start n : Nat} {samples : List Sample} {s : IpStats}
    (hour : windowSecs ≤ 3600) (fits : Fits samples)
    (exact : Exact Resolution.second.bucket Sample.amount 1 sec1Retain
      (Resolution.second.newest samples) (counted samples) s.sec1)
    {content : Nat → Bucket} (ring : s.sec1 = layout 1 start (n + 1) content) :
    s.heatmapColumns windowSecs cols =
      (List.range' (start / group windowSecs cols)
        ((start + n) / group windowSecs cols - start / group windowSecs cols + 1)).map fun j =>
          columnOf (group windowSecs cols) (j * group windowSecs cols) samples := by
  have near : windowSecs ≤ sec1Retain * 10 := by
    unfold sec1Retain
    omega
  unfold IpStats.heatmapColumns
  rw [if_pos near]
  dsimp only
  rw [Nat.div_one]
  have size : max (windowSecs / cols) 1 = group windowSecs cols := rfl
  have columns := columns_layout (group windowSecs cols) start n content (group_pos windowSecs cols)
  rw [← ring] at columns
  rw [size, columns, layout, List.map_map]
  refine List.map_congr_left fun j _ => ?_
  have loads := tally_hom load (fun e : Nat × Bucket => e.1 / group windowSecs cols == j) Prod.snd s.sec1
  have bucket := exact.among fun k => k / group windowSecs cols == j
  have back : j * group windowSecs cols / group windowSecs cols = j :=
    Nat.mul_div_cancel j (group_pos windowSecs cols)
  have value : tally (fun e => e.1 / group windowSecs cols == j) (fun e => load e.2) s.sec1 =
      load ((merged (group windowSecs cols) (j * group windowSecs cols) samples).map Sample.amount).sum := by
    rw [loads, bucket, counted, tally_filter _ _ _ _ Sample.amount_of_blank, merged, back]
    rfl
  rw [Function.comp_apply, value, columnOf, back, Nat.mul_one, ← columnPct_merged fits]

theorem standsFor_columnOf {g : Nat} (positive : 0 < g) (k j : Nat) (samples : List Sample) :
    standsFor g k (columnOf g (j * g) samples) = (j == k / g) := by
  have start : (columnOf g (j * g) samples).1 = j * g * 1000000 := by
    rw [columnOf, Nat.mul_div_cancel j positive]
  rw [standsFor, start, Bool.eq_iff_iff, decide_eq_true_eq, beq_iff_eq, ← Nat.add_mul,
    Nat.mul_le_mul_right_iff (by decide), Nat.mul_lt_mul_right (by decide), ← Nat.succ_mul,
    ← Nat.le_div_iff_mul_le positive, ← Nat.div_lt_iff_lt_mul positive]
  omega

/-- Of the columns of a row of groups exactly one stands for a second in them. -/
theorem filter_columns {g first m : Nat} (positive : 0 < g) (k : Nat) (samples : List Sample) :
    ((List.range' first m).map fun j => columnOf g (j * g) samples).filter (standsFor g k) =
      if first ≤ k / g ∧ k / g < first + m then [columnOf g k samples] else [] := by
  have same : columnOf g (k / g * g) samples = columnOf g k samples := by
    simp only [columnOf, merged, Nat.mul_div_cancel _ positive]
  induction m generalizing first with
  | zero => rw [if_neg (by omega)]; rfl
  | succ m ih =>
    rw [List.range'_succ, List.map_cons, List.filter_cons, standsFor_columnOf positive, ih]
    by_cases own : first = k / g
    · rw [if_pos (beq_iff_eq.mpr own), if_neg (by omega), if_pos (by omega), own, same]
    · rw [if_neg fun equal => own (beq_iff_eq.mp equal)]
      by_cases inside : first + 1 ≤ k / g ∧ k / g < first + 1 + m
      · rw [if_pos inside, if_pos (by omega)]
      · rw [if_neg inside, if_neg (by omega)]

theorem start_columnOf {g : Nat} (positive : 0 < g) (j : Nat) (samples : List Sample) :
    (columnOf g (j * g) samples).1 / 1000000 = j * g := by
  rw [columnOf, Nat.mul_div_cancel j positive, Nat.mul_div_cancel _ (by decide)]

theorem spans_layout {windowSecs cols start n : Nat} {samples : List Sample} {content : Nat → Bucket} :
    Spans windowSecs cols samples (layout 1 start (n + 1) content) ↔
      (start + n) / group windowSecs cols - start / group windowSecs cols ≤ cols ∧
        start + n + 1 <
          start / group windowSecs cols * group windowSecs cols + group windowSecs cols + windowSecs ∧
        ∀ a ∈ counted samples, start + n < second a + windowSecs → start ≤ second a := by
  simp [Spans, head?_layout, getLast?_layout]

section Exact

variable {windowSecs cols : Nat} {samples : List Sample} {s : IpStats}

theorem covers_empty (hour : windowSecs ≤ 3600) (none : counted samples = []) (empty : s.sec1 = []) :
    Covers windowSecs cols samples s := by
  have near : windowSecs ≤ sec1Retain * 10 := by
    unfold sec1Retain
    omega
  have blank : s.heatmapColumns windowSecs cols = [] := by
    unfold IpStats.heatmapColumns
    rw [if_pos near, empty]
    rfl
  refine ⟨?_, ?_, ?_⟩
  · rw [blank]
    exact Nat.zero_le _
  · rw [none]
    exact fun a member => absurd member List.not_mem_nil
  · rw [blank]
    exact fun column member => absurd member List.not_mem_nil

theorem covers_iff (hour : windowSecs ≤ 3600) (fits : Fits samples)
    (exact : Exact Resolution.second.bucket Sample.amount 1 sec1Retain
      (Resolution.second.newest samples) (counted samples) s.sec1) :
    Covers windowSecs cols samples s ↔ Spans windowSecs cols samples s.sec1 := by
  obtain ⟨start, n, nonempty, short, ends, ring, inside⟩ := id exact
  obtain ⟨n, rfl⟩ := Nat.exists_eq_succ_of_ne_zero (Nat.pos_iff_ne_zero.mp nonempty)
  have newest : Resolution.second.newest samples = start + n := by omega
  have columns := heatmapColumns_eq cols hour fits exact ring
  have positive := group_pos windowSecs cols
  have retained (k : Nat) : k ∈ s.sec1.map Prod.fst ↔ start ≤ k ∧ k < start + (n + 1) := by
    rw [ring, mem_keys_layout]
  rw [ring, spans_layout]
  constructor
  · rintro ⟨few, represented, recent⟩
    refine ⟨?_, ?_, fun a member near => ?_⟩
    · rw [columns, List.length_map, List.length_range'] at few
      omega
    · have oldest := recent (columnOf _ (start / group windowSecs cols * group windowSecs cols) samples) (by
        rw [columns]
        exact List.mem_map_of_mem (List.mem_range'_1.mpr ⟨Nat.le_refl _, by omega⟩))
      rwa [start_columnOf positive, newest] at oldest
    · rw [← newest] at near
      exact ((retained _).mp (represented a member near).1).1
  · rintro ⟨few, recent, held⟩
    refine ⟨?_, fun a member near => ?_, fun column member => ?_⟩
    · rw [columns, List.length_map, List.length_range']
      omega
    · rw [newest] at near
      have old := held a member near
      have young : second a ≤ start + n := newest ▸ (inside a member).1
      have above : start / group windowSecs cols ≤ second a / group windowSecs cols :=
        Nat.div_le_div_right old
      have below : second a / group windowSecs cols ≤ (start + n) / group windowSecs cols :=
        Nat.div_le_div_right young
      refine ⟨(retained _).mpr ⟨old, by omega⟩, ?_⟩
      rw [columns, filter_columns positive, if_pos ⟨above, by omega⟩]
    · rw [columns] at member
      obtain ⟨j, row, rfl⟩ := List.mem_map.mp member
      have lower := Nat.mul_le_mul_right (group windowSecs cols) (List.mem_range'_1.mp row).1
      rw [start_columnOf positive, newest]
      omega

end Exact

/-- After any samples in time order that fit into 64 bits, the columns cover the
window exactly if the ring spans no more than it and all of it. -/
theorem heatmap_covers_iff (ip : IpAddr) {samples : List Sample}
    (ordered : samples.Pairwise fun a b => a.tsUs ≤ b.tsUs) (fits : Fits samples) {windowSecs : Nat}
    (hour : windowSecs ≤ 3600) (cols : Nat) :
    Covers windowSecs cols samples (samples.foldl observe (.new ip)) ↔
      Spans windowSecs cols samples (samples.foldl observe (.new ip)).sec1 := by
  rcases kept_run .second ip ordered with ⟨none, empty⟩ | exact
  · have empty : (samples.foldl observe (.new ip)).sec1 = [] := empty
    rw [empty]
    exact ⟨fun _ oldest nothing => absurd nothing (by simp), fun _ => covers_empty hour none empty⟩
  · exact covers_iff hour fits exact

/-- A single second of traffic in a window of a minute. -/
theorem heatmap_covers_second :
    Covers 60 60 [.packets 1000000 8 1280 .tx, .lost 1000000 2 .tx]
      ([.packets 1000000 8 1280 .tx, .lost 1000000 2 .tx].foldl observe (.new (.v4 ⟨10, 1, 2, 3⟩))) := by
  refine (heatmap_covers_iff _ (by simp [Sample.tsUs]) ⟨by decide, by decide⟩ (by decide) 60).mpr ?_
  have ring : ([Sample.packets 1000000 8 1280 .tx, .lost 1000000 2 .tx].foldl observe
      (.new (.v4 ⟨10, 1, 2, 3⟩))).sec1 = layout 1 1 1 fun _ => ⟨8, 0, 2, 0, 1280, 0⟩ := by decide
  rw [ring]
  refine spans_layout.mpr ⟨by decide, by decide, ?_⟩
  decide

/-- Traffic in the seconds 1 and 3: a window of one second with one column gets
the three columns of the whole ring. -/
theorem heatmap_all_of_ring :
    let samples : List Sample := [.packets 1000000 1 160 .tx, .packets 3000000 1 160 .tx]
    samples.Pairwise (fun a b => a.tsUs ≤ b.tsUs) ∧ Fits samples ∧
      ¬Covers 1 1 samples (samples.foldl observe (.new (.v4 ⟨10, 1, 2, 3⟩))) := by
  refine ⟨by simp [Sample.tsUs, UInt64.le_iff_toNat_le], ⟨by decide, by decide⟩, fun covers => ?_⟩
  exact absurd covers.few (by decide)

end Sipmon.Guarantees.LossHeatmap
