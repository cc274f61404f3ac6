import Mathlib.Data.List.Infix
import Sipmon.Lib.FirstSeen

/-!
# Rows under a kept order

A table keeps the order of its keys between two sorts: rows stand where their keys stand,
and keys not seen before join the end. As long as the order is only extended, two rows
never change places.
-/
namespace Sipmon.Lib.KeptOrder
open FirstSeen (note)

variable {α β : Type*} [DecidableEq α] {key : β → α}

theorem prefix_note (order : List α) (k : α) : order <+: note order k := by
  by_cases known : k ∈ order
  · rw [FirstSeen.note_of_mem known]
  · rw [FirstSeen.note_of_new known]
    exact List.prefix_append order [k]

theorem prefix_noted (keys order : List α) : order <+: keys.foldl note order := by
  induction keys generalizing order with
  | nil => exact List.prefix_rfl
  | cons k rest ih => exact (prefix_note order k).trans (ih (note order k))

theorem noted_eq {keys : List α} (distinct : keys.Nodup) (order : List α) :
    keys.foldl note order = order ++ keys.filter (· ∉ order) := by
  induction keys generalizing order with
  | nil => simp
  | cons k rest ih =>
    obtain ⟨fresh, distinct⟩ := List.nodup_cons.mp distinct
    rw [List.foldl_cons, ih distinct]
    by_cases known : k ∈ order
    · simp [FirstSeen.note_of_mem known, known]
    · have others : rest.filter (· ∉ order ++ [k]) = rest.filter (· ∉ order) := by
        apply List.filter_congr
        intro b member
        have : b ≠ k := fun same => fresh (same ▸ member)
        simp [this]
      simp only [FirstSeen.note_of_new known, others]
      simp [known]

/-- The rows of known keys stand in the kept order. -/
theorem known_keys (order : List α) (rows : List β) :
    (order.filterMap fun k => rows.reverse.find? fun b => key b == k).map key =
      order.filter (· ∈ rows.map key) := by
  induction order with
  | nil => rfl
  | cons k rest ih =>
    cases found : rows.reverse.find? fun b => key b == k with
    | none =>
      have absent : k ∉ rows.map key := by
        simp only [List.find?_eq_none, List.mem_reverse, beq_iff_eq] at found
        rintro member
        obtain ⟨b, inside, rfl⟩ := List.mem_map.mp member
        exact found b inside rfl
      rw [List.filterMap_cons, found, ih, List.filter_cons_of_neg (by simpa using absent)]
    | some b =>
      have same : key b = k := by simpa using List.find?_some found
      have listed : k ∈ rows.map key :=
        List.mem_map.mpr ⟨b, List.mem_reverse.mp (List.mem_of_find?_eq_some found), same⟩
      rw [List.filterMap_cons, found, List.map_cons, ih, same, List.filter_cons_of_pos (by simpa using listed)]

/-- What a table shows, by key: its rows' keys in the order kept from now on. -/
theorem shown_keys {rows : List β} (distinct : (rows.map key).Nodup) (order : List α) :
    ((order.filterMap fun k => rows.reverse.find? fun b => key b == k) ++
        rows.filter fun b => key b ∉ order).map key =
      ((rows.map key).foldl note order).filter (· ∈ rows.map key) := by
  have fresh : ((rows.map key).filter (· ∉ order)).filter (· ∈ rows.map key) = (rows.map key).filter (· ∉ order) := by
    apply List.filter_eq_self.mpr
    intro k member
    simpa using (List.mem_filter.mp member).1
  rw [noted_eq distinct, List.filter_append, fresh, List.map_append, known_keys, List.filter_map]
  rfl

/-- Under an order that was only extended, the rows two tables share stand alike in both. -/
theorem shared_rows {before after shown later : List α} (extended : before <+: after)
    (distinct : after.Nodup) :
    (before.filter (· ∈ shown)).filter (· ∈ after.filter (· ∈ later)) =
      (after.filter (· ∈ later)).filter (· ∈ before.filter (· ∈ shown)) := by
  obtain ⟨grown, rfl⟩ := extended
  have apart : ∀ k ∈ grown, k ∉ before := fun k member known =>
    (List.nodup_append.mp distinct).2.2 k known k member rfl
  have none_grown : (grown.filter (· ∈ later)).filter (· ∈ before.filter (· ∈ shown)) = [] := by
    apply List.filter_eq_nil_iff.mpr
    intro k member
    have := apart k (List.mem_filter.mp member).1
    simp [this]
  rw [List.filter_append, List.filter_append, none_grown, List.append_nil, List.filter_filter, List.filter_filter]
  apply List.filter_congr
  intro k known
  by_cases listed : k ∈ later
  · simp [known, listed]
  · simp [listed]

end Sipmon.Lib.KeptOrder
