import Mathlib.Data.Nat.Count

/-!
# Bit windows over a growing sequence

A word of `w` bits describes the `w` positions behind a head: bit `i` stands for
position `head - 1 - i`. `ones` counts the positions that are marked. Moving the
head shifts the word, and the marks that fall off its end are counted by the
opposite shift.
-/
namespace Sipmon.Lib.BitWindow
variable {w : Nat}

/-- How many bits are set. -/
def ones (mask : BitVec w) : Nat := Nat.count (fun i => mask.getLsbD i = true) w

theorem count_congr {p q : Nat → Prop} [DecidablePred p] [DecidablePred q] {n : Nat}
    (same : ∀ i < n, p i ↔ q i) : Nat.count p n = Nat.count q n :=
  Nat.le_antisymm (Nat.count_mono_left fun i below => (same i below).mp)
    (Nat.count_mono_left fun i below => (same i below).mpr)

theorem count_split (p : Nat → Prop) [DecidablePred p] {k n : Nat} (within : k ≤ n) :
    Nat.count p n = Nat.count p k + Nat.count (fun i => p (k + i)) (n - k) := by
  rw [← Nat.count_add, Nat.add_sub_cancel' within]

/-- Leaving out one of the counted numbers lowers the count by one. -/
theorem count_remove (p : Nat → Prop) [DecidablePred p] {k n : Nat} (within : k < n) (counted : p k) :
    Nat.count (fun i => p i ∧ i ≠ k) n + 1 = Nat.count p n := by
  induction n with
  | zero => omega
  | succ n ih =>
    rw [Nat.count_succ, Nat.count_succ]
    by_cases last : k = n
    · subst last
      have before : Nat.count (fun i => p i ∧ i ≠ k) k = Nat.count p k :=
        count_congr fun i below => ⟨fun both => both.1, fun one => ⟨one, by omega⟩⟩
      simp [before, counted]
    · have differs : (p n ∧ n ≠ k) ↔ p n := ⟨fun both => both.1, fun one => ⟨one, Ne.symm last⟩⟩
      have earlier := ih (by omega)
      rw [if_congr differs rfl rfl]
      omega

/-- A head that moves over a gap of `d` counted numbers. -/
theorem count_extend {p q : Nat → Prop} [DecidablePred p] [DecidablePred q] {head d : Nat}
    (below : ∀ i < head, q i ↔ p i) (atHead : ¬ q head)
    (gap : ∀ i, head < i → i < head + (d + 1) → q i) :
    Nat.count q (head + (d + 1)) = Nat.count p head + d := by
  have skipped : Nat.count (fun i => q (head + 1 + i)) d = d := by
    rw [Nat.count_iff_forall]
    exact fun i inside => gap (head + 1 + i) (by omega) (by omega)
  rw [show head + (d + 1) = head + 1 + d by omega, Nat.count_add, skipped, Nat.count_succ,
    if_neg atHead, count_congr below, Nat.add_zero]

theorem countP_range (f : Nat → Bool) (n : Nat) :
    (List.range n).countP f = Nat.count (fun i => f i = true) n := by
  induction n with
  | zero => rfl
  | succ n ih => rw [List.range_succ, List.countP_append, ih, List.countP_singleton, Nat.count_succ]

theorem ones_zero : ones (0 : BitVec w) = 0 := by
  unfold ones
  rw [Nat.count_iff_forall_not]
  intro i _
  simp

theorem ones_eq_zero {mask : BitVec w} (none : ones mask = 0) : mask = 0 := by
  unfold ones at none
  rw [Nat.count_iff_forall_not] at none
  apply BitVec.eq_of_getLsbD_eq
  intro i below
  have unset := none i below
  simp_all

theorem ones_allOnes : ones (BitVec.allOnes w) = w := by
  unfold ones
  rw [Nat.count_iff_forall]
  intro i below
  simp [below]

/-- Marks shifted off one end and marks that stay are all the marks. -/
theorem ones_shift (mask : BitVec w) {d : Nat} (within : d < w) :
    ones (mask >>> (w - d)) + ones (mask <<< d) = ones mask := by
  have gone : ones (mask >>> (w - d)) = Nat.count (fun i => mask.getLsbD (w - d + i) = true) d := by
    unfold ones
    rw [count_split _ (Nat.le_of_lt within)]
    have beyond : Nat.count (fun i => (mask >>> (w - d)).getLsbD (d + i) = true) (w - d) = 0 := by
      rw [Nat.count_iff_forall_not]
      intro i _
      simp [BitVec.getLsbD_of_ge mask (w - d + (d + i)) (by omega)]
    rw [beyond, Nat.add_zero]
    exact count_congr fun i _ => by rw [BitVec.getLsbD_ushiftRight]
  have stay : ones (mask <<< d) = Nat.count (fun i => mask.getLsbD i = true) (w - d) := by
    unfold ones
    rw [count_split _ (Nat.le_of_lt within)]
    have low : Nat.count (fun i => (mask <<< d).getLsbD i = true) d = 0 := by
      rw [Nat.count_iff_forall_not]
      intro i below
      simp [below]
    rw [low, Nat.zero_add]
    refine count_congr fun i below => ?_
    have inside : d + i < w := by omega
    rw [BitVec.getLsbD_shiftLeft]
    simp [inside]
  have whole := count_split (fun i => mask.getLsbD i = true) (Nat.sub_le w d)
  rw [Nat.sub_sub_self (Nat.le_of_lt within)] at whole
  rw [gone, stay]
  unfold ones
  omega

/-- Disjoint marks add up. -/
theorem ones_or (a b : BitVec w) (disjoint : ∀ i, a.getLsbD i = true → b.getLsbD i = false) :
    ones (a ||| b) = ones a + ones b := by
  unfold ones
  have splits : ∀ n, Nat.count (fun i => (a ||| b).getLsbD i = true) n =
      Nat.count (fun i => a.getLsbD i = true) n + Nat.count (fun i => b.getLsbD i = true) n := by
    intro n
    induction n with
    | zero => simp
    | succ n ih =>
      rw [Nat.count_succ, Nat.count_succ, Nat.count_succ, ih, BitVec.getLsbD_or]
      cases left : a.getLsbD n with
      | false =>
        simp
        omega
      | true =>
        rw [disjoint n left]
        simp
        omega
  exact splits w

/-- The lowest `k` bits. -/
theorem getLsbD_low {k : Nat} (within : k < w) (i : Nat) :
    (1#w <<< k - 1#w).getLsbD i = decide (i < k) := by
  have one : (1#w).toNat = 1 := Nat.mod_eq_of_lt (Nat.one_lt_two_pow (by omega))
  have top : (1#w <<< k).toNat = 2 ^ k := by
    rw [BitVec.toNat_shiftLeft, one, Nat.shiftLeft_eq, Nat.one_mul]
    exact Nat.mod_eq_of_lt (Nat.pow_lt_pow_right (by decide) within)
  have ordered : 1#w ≤ 1#w <<< k := by
    rw [BitVec.le_def, top, one]
    exact Nat.one_le_two_pow
  have value : (1#w <<< k - 1#w).toNat = 2 ^ k - 1 := by
    rw [BitVec.toNat_sub_of_le ordered, top, one]
  rw [← BitVec.testBit_toNat, value, Nat.testBit_two_pow_sub_one]

theorem ones_low {k : Nat} (within : k < w) : ones (1#w <<< k - 1#w) = k := by
  have low : Nat.count (fun i => (1#w <<< k - 1#w).getLsbD i = true) k = k := by
    rw [Nat.count_iff_forall]
    intro i below
    simp [getLsbD_low within, below]
  have high : Nat.count (fun i => (1#w <<< k - 1#w).getLsbD (k + i) = true) (w - k) = 0 := by
    rw [Nat.count_iff_forall_not]
    intro i _
    simp [getLsbD_low within]
  have whole := Nat.count_add (fun i => (1#w <<< k - 1#w).getLsbD i = true) k (w - k)
  rw [low, high, Nat.add_sub_cancel' (Nat.le_of_lt within)] at whole
  exact whole

theorem getLsbD_clear (mask : BitVec w) (k i : Nat) :
    (mask &&& ~~~(1#w <<< k)).getLsbD i = (mask.getLsbD i && i != k) := by
  rw [BitVec.getLsbD_and, BitVec.getLsbD_not, BitVec.getLsbD_shiftLeft, BitVec.getLsbD_one]
  by_cases inside : i < w
  · by_cases hit : i = k
    · subst hit
      simp [inside]
      omega
    · have apart : i < k ∨ i - k ≠ 0 := by omega
      rcases apart with below | above
      · simp [inside, below, hit]
      · simp [inside, hit, above]
  · simp [BitVec.getLsbD_of_ge mask i (by omega)]

/-- Clearing a bit unmarks its position only. -/
theorem ones_clear (mask : BitVec w) {k : Nat} (set : mask.getLsbD k = true) :
    ones (mask &&& ~~~(1#w <<< k)) + 1 = ones mask := by
  have within : k < w := by
    by_contra outside
    rw [BitVec.getLsbD_of_ge mask k (by omega)] at set
    cases set
  unfold ones
  rw [← count_remove (fun i => mask.getLsbD i = true) within set]
  congr 1
  refine count_congr fun i _ => ?_
  rw [getLsbD_clear]
  simp

theorem clear_unset (mask : BitVec w) {k : Nat} (unset : mask.getLsbD k = false) :
    mask &&& ~~~(1#w <<< k) = mask := by
  apply BitVec.eq_of_getLsbD_eq
  intro i _
  rw [getLsbD_clear]
  by_cases hit : i = k
  · rw [hit, unset, Bool.false_and]
  · simp [hit]

end Sipmon.Lib.BitWindow
