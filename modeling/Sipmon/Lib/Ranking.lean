import Mathlib.Data.List.Sort

/-!
# The front of a ranking

A ranking is a list sorted by a total, antisymmetric order. Who is among its
first `n` can be told without sorting: by how many come before it.
-/
namespace Sipmon.Lib.Ranking

variable {α : Type*} [DecidableEq α] (le : α → α → Bool)

/-- The elements that come before `x`. -/
def earlier (l : List α) (x : α) : List α := l.filter fun y => le y x && decide (y ≠ x)

theorem length_earlier_perm {l m : List α} (perm : l.Perm m) (x : α) :
    (earlier le l x).length = (earlier le m x).length := (perm.filter _).length_eq

variable {le}

/-- In a ranking, what stands before an element is what comes before it. -/
theorem earlier_split {before after : List α} {x : α}
    (antisymm : ∀ a b, le a b = true → le b a = true → a = b)
    (sorted : (before ++ x :: after).Pairwise fun a b => le a b = true)
    (distinct : (before ++ x :: after).Nodup) : earlier le (before ++ x :: after) x = before := by
  obtain ⟨_, behind, across⟩ := List.pairwise_append.mp sorted
  obtain ⟨_, fresh, apart⟩ := List.nodup_append.mp distinct
  have front : before.filter (fun y => le y x && decide (y ≠ x)) = before := by
    refine List.filter_eq_self.mpr fun y member => ?_
    have other : y ≠ x := apart y member x List.mem_cons_self
    simp [across y member x List.mem_cons_self, other]
  have back : after.filter (fun y => le y x && decide (y ≠ x)) = [] := by
    refine List.filter_eq_nil_iff.mpr fun y member => ?_
    have le' : le x y = true := (List.pairwise_cons.mp behind).1 y member
    by_cases back : le y x = true
    · simp [antisymm y x back le']
    · simp [back]
  rw [earlier, List.filter_append, List.filter_cons, front, back]
  simp

/-- An element is among the first `n` when fewer than `n` come before it. -/
theorem mem_take_iff {l : List α} (antisymm : ∀ a b, le a b = true → le b a = true → a = b)
    (sorted : l.Pairwise fun a b => le a b = true) (distinct : l.Nodup) {x : α} (member : x ∈ l)
    (n : Nat) : x ∈ l.take n ↔ (earlier le l x).length < n := by
  obtain ⟨before, after, rfl⟩ := List.append_of_mem member
  rw [earlier_split antisymm sorted distinct]
  have absent : x ∉ before := fun front =>
    (List.nodup_append.mp distinct).2.2 x front x List.mem_cons_self rfl
  constructor
  · intro chosen
    by_contra behind
    rw [List.take_append_of_le_length (by omega)] at chosen
    exact absent (List.mem_of_mem_take chosen)
  · intro room
    rw [List.take_append, List.take_of_length_le (by omega)]
    refine List.mem_append_right _ ?_
    obtain ⟨k, more⟩ : ∃ k, n - before.length = k + 1 := ⟨n - before.length - 1, by omega⟩
    rw [more, List.take_succ_cons]
    exact List.mem_cons_self

end Sipmon.Lib.Ranking
