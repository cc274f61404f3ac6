import Mathlib.Data.Rat.Floor
import Mathlib.Tactic.NormNum
import Sipmon.Lib.Weighted
import Sipmon.Source.EvReport
import Sipmon.Source.Percentile

/-!
# Percentiles of weighted samples

The loop over cumulated weights indexes the sorted list in which every value is
repeated as often as it weighs.
-/
namespace Sipmon.Guarantees.WeightedPercentiles
open Lib.Weighted Source Percentile

section Values
variable {α : Type*} [LinearOrder α]

/-- Every value as often as it weighs, in order. -/
def repeated (samples : List (α × ℕ)) : List α := (spread samples).insertionSort (· ≤ ·)

theorem length_repeated (samples : List (α × ℕ)) : (repeated samples).length = weight samples := by
  rw [repeated, List.length_insertionSort, length_spread]

theorem repeated_perm {a b : List (α × ℕ)} (perm : a.Perm b) : repeated a = repeated b := by
  have same : (repeated a).Perm (repeated b) :=
    ((List.perm_insertionSort _ _).trans (spread_perm perm)).trans (List.perm_insertionSort _ _).symm
  exact same.eq_of_pairwise' (List.pairwise_insertionSort _ _) (List.pairwise_insertionSort _ _)

/-- The samples the loop runs over. -/
def sorted (samples : List (α × ℕ)) : List (α × ℕ) :=
  (samples.filter fun s => decide (0 < s.2)).insertionSort fun a b => a.1 ≤ b.1

theorem spread_sorted (samples : List (α × ℕ)) : spread (sorted samples) = repeated samples := by
  have same : (spread (sorted samples)).Perm (repeated samples) := by
    have loop := spread_perm (List.perm_insertionSort (fun a b : α × ℕ => a.1 ≤ b.1)
      (samples.filter fun s => decide (0 < s.2)))
    rw [spread_filter] at loop
    exact loop.trans (List.perm_insertionSort _ _).symm
  refine same.eq_of_pairwise' (pairwise_spread le_refl ?_) (List.pairwise_insertionSort _ _)
  exact List.pairwise_insertionSort _ _

theorem weight_sorted (samples : List (α × ℕ)) : weight (sorted samples) = weight samples := by
  rw [sorted, weight_perm (List.perm_insertionSort _ _), weight_filter]

end Values

section Exact
variable {α K : Type*} [Field K] [LinearOrder K] [FloorSemiring K]

/-- Exact sums pass a target when they pass its floor. -/
theorem passing_eq {target : K} (positive : 0 ≤ target) (sum : ℕ) (samples : List (α × ℕ)) :
    passing (.exact K) target (sum : K) samples = pick ⌊target⌋₊ sum samples := by
  induction samples generalizing sum with
  | nil => rfl
  | cons s rest ih =>
    obtain ⟨value, w⟩ := s
    have added : (Arithmetic.exact K).add (sum : K) ((Arithmetic.exact K).ofNat w) = ((sum + w : ℕ) : K) :=
      (Nat.cast_add sum w).symm
    have passes : (Arithmetic.exact K).lt target ((sum + w : ℕ) : K) = decide (⌊target⌋₊ < sum + w) :=
      decide_eq_decide.mpr (Nat.floor_lt positive).symm
    rw [passing, pick, added, passes, ih]
    simp

/-- The place of a percentile among `N` elements. -/
def place (N : ℕ) (p : K) : ℕ := ⌊((N : K) - 1) * p⌋₊

variable [IsStrictOrderedRing K]

theorem last_nonneg {N : ℕ} (some_ : 0 < N) : (0 : K) ≤ (N : K) - 1 :=
  sub_nonneg.mpr (Nat.one_le_cast.mpr some_)

theorem place_lt {N : ℕ} (some_ : 0 < N) {p : K} (high : p ≤ 1) : place N p < N := by
  unfold place
  rw [Nat.floor_lt' (Nat.pos_iff_ne_zero.mp some_)]
  calc ((N : K) - 1) * p ≤ ((N : K) - 1) * 1 := mul_le_mul_of_nonneg_left high (last_nonneg some_)
    _ = (N : K) - 1 := mul_one _
    _ < N := sub_one_lt _

theorem place_mono {N : ℕ} (some_ : 0 < N) {p q : K} (ordered : p ≤ q) : place N p ≤ place N q :=
  Nat.floor_mono (mul_le_mul_of_nonneg_left ordered (last_nonneg some_))

variable [LinearOrder α]

theorem weightedPercentile_eq {samples : List (α × ℕ)} (weighs : ∃ s ∈ samples, 0 < s.2) {p : K} (low : 0 ≤ p)
    (high : p ≤ 1) :
    weightedPercentile (.exact K) (· ≤ ·) samples p = (repeated samples)[place (weight samples) p]? := by
  have positive := weight_pos weighs
  have nonempty : (sorted samples).isEmpty = false := by
    rw [List.isEmpty_eq_false_iff]
    intro empty
    have nothing := weight_sorted samples
    rw [empty] at nothing
    exact absurd nothing (Nat.ne_of_lt positive)
  have clamped : (Arithmetic.exact K).clamp p = p := by
    change (if p < 0 then 0 else if 1 < p then 1 else p) = p
    rw [if_neg (not_lt.mpr low), if_neg (not_lt.mpr high)]
  have total : ((sorted samples).map Prod.snd).sum = weight samples := weight_sorted samples
  have target : (0 : K) ≤ ((weight samples : K) - 1) * p := mul_nonneg (last_nonneg positive) low
  have loop := passing_eq target 0 (sorted samples)
  rw [pick_eq (Nat.zero_le _), Nat.sub_zero, spread_sorted, Nat.cast_zero] at loop
  unfold weightedPercentile
  change (if (sorted samples).isEmpty then none else
    passing (.exact K) ((((sorted samples).map Prod.snd).sum - ((1 : ℕ) : K)) * (Arithmetic.exact K).clamp p)
      ((0 : ℕ) : K) (sorted samples)) = _
  rw [nonempty, clamped, total, Nat.cast_one, Nat.cast_zero, loop]
  rfl

/-- In exact arithmetic the percentile is the element at `⌊(N - 1) * p⌋` of the sorted
list that repeats each value as often as it weighs: there is one, it grows with `p`,
and the order of the samples does not matter. -/
theorem percentile_of_repeated {samples : List (α × ℕ)} (weighs : ∃ s ∈ samples, 0 < s.2) {p : K} (low : 0 ≤ p)
    (high : p ≤ 1) :
    weightedPercentile (.exact K) (· ≤ ·) samples p =
        (repeated samples)[⌊(((samples.map Prod.snd).sum : K) - 1) * p⌋₊]? ∧
      (weightedPercentile (.exact K) (· ≤ ·) samples p).isSome ∧
      (∀ q, p ≤ q → q ≤ 1 → ∀ u ∈ weightedPercentile (.exact K) (· ≤ ·) samples p,
        ∀ v ∈ weightedPercentile (.exact K) (· ≤ ·) samples q, u ≤ v) ∧
      ∀ other, other.Perm samples →
        weightedPercentile (.exact K) (· ≤ ·) other p = weightedPercentile (.exact K) (· ≤ ·) samples p := by
  have positive := weight_pos weighs
  have found := weightedPercentile_eq weighs low high
  have inside : place (weight samples) p < (repeated samples).length := by
    rw [length_repeated]
    exact place_lt positive high
  refine ⟨found, ?_, fun q ordered top u isU v isV => ?_, fun other perm => ?_⟩
  · rw [found, List.getElem?_eq_getElem inside]
    rfl
  · rw [found] at isU
    rw [weightedPercentile_eq weighs (le_trans low ordered) top] at isV
    obtain ⟨first, rfl⟩ := List.getElem?_eq_some_iff.mp isU
    obtain ⟨second, rfl⟩ := List.getElem?_eq_some_iff.mp isV
    exact (List.pairwise_insertionSort (· ≤ ·) (spread samples)).rel_get_of_le
      (a := ⟨_, first⟩) (b := ⟨_, second⟩) (place_mono positive ordered)
  · have weighs' : ∃ s ∈ other, 0 < s.2 := by
      obtain ⟨s, member, weight⟩ := weighs
      exact ⟨s, perm.mem_iff.mpr member, weight⟩
    rw [found, weightedPercentile_eq weighs' low high, repeated_perm perm, weight_perm perm]

/-- Three packets of jitter 2 and one of 9: the median is 2. -/
theorem percentile_of_four :
    weightedPercentile (.exact ℚ) (· ≤ ·) [(9, 1), (5, 0), (2, 3)] (1 / 2) = some 2 := by
  have weighs : ∃ s ∈ ([(9, 1), (5, 0), (2, 3)] : List (ℕ × ℕ)), 0 < s.2 := ⟨(9, 1), by decide, by decide⟩
  have median := (percentile_of_repeated weighs (p := (1 / 2 : ℚ)) (by norm_num) (by norm_num)).1
  have middle : ⌊((([(9, 1), (5, 0), (2, 3)] : List (ℕ × ℕ)).map Prod.snd).sum - 1 : ℚ) * (1 / 2)⌋₊ = 1 := by
    norm_num [Nat.floor_eq_iff]
  rw [median, middle]
  decide

end Exact

/-! ## The program's arithmetic -/

def natural (s : F64 × UInt64) : F64 × ℕ := (s.1, s.2.toNat)

theorem passing_f64 (target sum : F64) (samples : List (F64 × UInt64)) :
    StatsAcc.passing target sum samples = passing .f64 target sum (samples.map natural) := by
  induction samples generalizing sum with
  | nil => rfl
  | cons s rest ih =>
    obtain ⟨value, w⟩ := s
    have added : Arithmetic.f64.add sum (Arithmetic.f64.ofNat w.toNat) = sum + .ofNat w.toNat := rfl
    rw [StatsAcc.passing, List.map_cons, natural, passing, ih, added]
    simp only [Arithmetic.f64, decide_eq_true_eq]

theorem toNat_total (sum : UInt64) (samples : List (F64 × UInt64))
    (fits : sum.toNat + ((samples.map natural).map Prod.snd).sum < 2 ^ 64) :
    (samples.foldl (fun sum s => sum + s.2) sum).toNat =
      sum.toNat + ((samples.map natural).map Prod.snd).sum := by
  induction samples generalizing sum with
  | nil => rfl
  | cons s rest ih =>
    rw [List.map_cons, List.map_cons, List.sum_cons, natural] at fits ⊢
    have added : (sum + s.2).toNat = sum.toNat + s.2.toNat := by
      rw [UInt64.toNat_add]
      omega
    rw [List.foldl_cons, ih (sum + s.2) (by omega), added]
    omega

/-- The report's percentile is the same loop over `f64`, as long as the weights add up
without overflow. -/
theorem weightedPercentile_f64 (samples : List (F64 × UInt64)) (p : F64)
    (fits : ((samples.map natural).map Prod.snd).sum < 2 ^ 64) :
    StatsAcc.weightedPercentile samples p =
      weightedPercentile .f64 (fun a b => a.totalRank ≤ b.totalRank) (samples.map natural) p := by
  let v := (samples.filter fun s : F64 × UInt64 => decide (0 < s.2)).insertionSort
    fun a b => a.1.totalRank ≤ b.1.totalRank
  have loop : ((samples.map natural).filter fun s => decide (0 < s.2)).insertionSort
      (fun a b => a.1.totalRank ≤ b.1.totalRank) = v.map natural := by
    have positive : ∀ s : F64 × UInt64, decide (0 < (natural s).2) = decide (0 < s.2) := fun s =>
      decide_eq_decide.mpr (UInt64.lt_iff_toNat_lt (a := 0) (b := s.2)).symm
    rw [List.filter_map, Function.comp_def, List.filter_congr fun s _ => positive s]
    exact (List.map_insertionSort _ _ natural _ fun a _ b _ => Iff.rfl).symm
  have lighter : weight (v.map natural) = weight (samples.map natural) := by
    rw [← loop, weight_perm (List.perm_insertionSort _ _), weight_filter]
  have total : (v.foldl (fun sum s => sum + s.2) (0 : UInt64)).toNat = ((v.map natural).map Prod.snd).sum := by
    have added := toNat_total 0 v (by
      change 0 + weight (v.map natural) < 2 ^ 64
      rw [lighter, Nat.zero_add]
      exact fits)
    simpa using added
  unfold StatsAcc.weightedPercentile weightedPercentile
  dsimp only
  rw [loop, passing_f64, total]
  cases none_ : (v.map natural).isEmpty with
  | true =>
    have nothing : v.map natural = [] := List.isEmpty_iff.mp none_
    change passing _ _ _ (v.map natural) = _
    rw [nothing]
    rfl
  | false => rfl

end Sipmon.Guarantees.WeightedPercentiles
