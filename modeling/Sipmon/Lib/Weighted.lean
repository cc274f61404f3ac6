import Mathlib.Algebra.BigOperators.Group.List.Basic
import Mathlib.Algebra.Order.Floor.Semiring
import Mathlib.Data.List.Sort

/-!
# Weighted lists

A weighted list stands for the list that repeats each value as often as it weighs.
Adding up weights until a target is passed picks an element of that list.
-/
namespace Sipmon.Lib.Weighted
variable {α : Type*}

def spread (samples : List (α × ℕ)) : List α := samples.flatMap fun s => List.replicate s.2 s.1

def weight (samples : List (α × ℕ)) : ℕ := (samples.map Prod.snd).sum

@[simp] theorem spread_cons (s : α × ℕ) (rest : List (α × ℕ)) :
    spread (s :: rest) = List.replicate s.2 s.1 ++ spread rest := rfl

@[simp] theorem weight_cons (s : α × ℕ) (rest : List (α × ℕ)) : weight (s :: rest) = s.2 + weight rest := rfl

theorem length_spread (samples : List (α × ℕ)) : (spread samples).length = weight samples := by
  induction samples with
  | nil => rfl
  | cons s rest ih => rw [spread_cons, weight_cons, List.length_append, List.length_replicate, ih]

theorem spread_perm {a b : List (α × ℕ)} (perm : a.Perm b) : (spread a).Perm (spread b) := perm.flatMap_right _

/-- Samples without weight do not count. -/
theorem spread_filter (samples : List (α × ℕ)) :
    spread (samples.filter fun s => decide (0 < s.2)) = spread samples := by
  induction samples with
  | nil => rfl
  | cons s rest ih =>
    by_cases weighs : 0 < s.2
    · rw [List.filter_cons, if_pos (decide_eq_true weighs), spread_cons, spread_cons, ih]
    · have none_ : s.2 = 0 := by omega
      rw [List.filter_cons, if_neg (by simp [none_]), spread_cons, ih, none_, List.replicate_zero, List.nil_append]

theorem weight_perm {a b : List (α × ℕ)} (perm : a.Perm b) : weight a = weight b := (perm.map Prod.snd).sum_eq

theorem weight_filter (samples : List (α × ℕ)) :
    weight (samples.filter fun s => decide (0 < s.2)) = weight samples := by
  rw [← length_spread, spread_filter, length_spread]

/-- Repeating keeps the order. -/
theorem pairwise_spread {r : α → α → Prop} (reflexive : ∀ a, r a a) {samples : List (α × ℕ)}
    (ordered : samples.Pairwise fun a b => r a.1 b.1) : (spread samples).Pairwise r := by
  unfold spread
  rw [List.pairwise_flatMap]
  refine ⟨fun s _ => List.pairwise_replicate.mpr (Or.inr (reflexive s.1)), ordered.imp ?_⟩
  intro s t before a fromS b fromT
  rw [List.eq_of_mem_replicate fromS, List.eq_of_mem_replicate fromT]
  exact before

theorem weight_pos {samples : List (α × ℕ)} (weighs : ∃ s ∈ samples, 0 < s.2) : 0 < weight samples := by
  obtain ⟨s, member, positive⟩ := weighs
  have copied : s.1 ∈ spread samples :=
    List.mem_flatMap.mpr ⟨s, member, List.mem_replicate.mpr ⟨Nat.pos_iff_ne_zero.mp positive, rfl⟩⟩
  rw [← length_spread]
  exact List.length_pos_of_mem copied

/-- The first value whose cumulated weight is above `target`. -/
def pick (target : ℕ) : ℕ → List (α × ℕ) → Option α
  | _, [] => none
  | sum, (value, w) :: rest => if target < sum + w then some value else pick target (sum + w) rest

theorem pick_eq {target sum : ℕ} (reached : sum ≤ target) (samples : List (α × ℕ)) :
    pick target sum samples = (spread samples)[target - sum]? := by
  induction samples generalizing sum with
  | nil => rfl
  | cons s rest ih =>
    obtain ⟨value, w⟩ := s
    rw [pick, spread_cons]
    by_cases passed : target < sum + w
    · have inside : target - sum < w := by omega
      rw [if_pos passed, List.getElem?_append_left (by simpa using inside), List.getElem?_replicate_of_lt inside]
    · rw [if_neg passed, ih (by omega), List.getElem?_append_right (by simp; omega), List.length_replicate,
        Nat.sub_add_eq]

end Sipmon.Lib.Weighted
