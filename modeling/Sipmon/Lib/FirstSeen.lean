import Mathlib.Data.List.Dedup
import Mathlib.Data.List.Induction
import Mathlib.Data.List.Nodup

/-!
# Numbering by first appearance

Keys are numbered in the order in which they first appear: `order` lists each
key once, and the number of a key is its place there.
-/
namespace Sipmon.Lib.FirstSeen

variable {α : Type*} [DecidableEq α]

/-- A key joins the end when it is new. -/
def note (seen : List α) (k : α) : List α := if k ∈ seen then seen else seen ++ [k]

def order (keys : List α) : List α := keys.foldl note []

/-- The number of a key. -/
def place (keys : List α) (k : α) : Nat := (order keys).idxOf k

theorem note_of_mem {seen : List α} {k : α} (known : k ∈ seen) : note seen k = seen := if_pos known

theorem note_of_new {seen : List α} {k : α} (fresh : k ∉ seen) : note seen k = seen ++ [k] := if_neg fresh

theorem mem_note (seen : List α) (k a : α) : a ∈ note seen k ↔ a ∈ seen ∨ a = k := by
  by_cases known : k ∈ seen
  · rw [note_of_mem known, iff_self_or]
    rintro rfl
    exact known
  · rw [note_of_new known, List.mem_append, List.mem_singleton]

theorem nodup_note {seen : List α} (distinct : seen.Nodup) (k : α) : (note seen k).Nodup := by
  by_cases known : k ∈ seen
  · rwa [note_of_mem known]
  · rw [note_of_new known]
    apply distinct.append (List.nodup_singleton k)
    simpa using known

theorem mem_foldl_note (keys seen : List α) (a : α) : a ∈ keys.foldl note seen ↔ a ∈ seen ∨ a ∈ keys := by
  induction keys generalizing seen with
  | nil => simp
  | cons k rest ih => rw [List.foldl_cons, ih, mem_note, List.mem_cons, or_assoc]

theorem nodup_foldl_note (keys : List α) {seen : List α} (distinct : seen.Nodup) :
    (keys.foldl note seen).Nodup := by
  induction keys generalizing seen with
  | nil => exact distinct
  | cons k rest ih => exact ih (nodup_note distinct k)

/-- A key keeps its number. -/
theorem idxOf_foldl_note (keys : List α) {seen : List α} {a : α} (known : a ∈ seen) :
    (keys.foldl note seen).idxOf a = seen.idxOf a := by
  induction keys generalizing seen with
  | nil => rfl
  | cons k rest ih =>
    rw [List.foldl_cons, ih ((mem_note seen k a).mpr (Or.inl known))]
    by_cases old : k ∈ seen
    · rw [note_of_mem old]
    · rw [note_of_new old, List.idxOf_append_of_mem known]

theorem mem_order (keys : List α) (a : α) : a ∈ order keys ↔ a ∈ keys := by
  simp [order, mem_foldl_note]

theorem nodup_order (keys : List α) : (order keys).Nodup := nodup_foldl_note keys List.nodup_nil

theorem order_of_nodup {keys : List α} (distinct : keys.Nodup) : order keys = keys := by
  induction keys using List.reverseRecOn with
  | nil => rfl
  | append_singleton front k ih =>
    obtain ⟨first, -, apart⟩ := List.nodup_append.mp distinct
    have fresh : k ∉ front := fun member => apart k member k (List.mem_singleton_self k) rfl
    rw [order, List.foldl_append, ← order, ih first, List.foldl_cons, note_of_new fresh, List.foldl_nil]

/-- The new keys follow the known ones. -/
theorem foldl_note_eq (keys seen : List α) :
    keys.foldl note seen = seen ++ (order keys).filter fun k => k ∉ seen := by
  induction keys using List.reverseRecOn with
  | nil => simp [order]
  | append_singleton front k ih =>
    have last : order (front ++ [k]) = note (order front) k := by
      rw [order, List.foldl_append, ← order]
      rfl
    rw [List.foldl_append, ih, last, List.foldl_cons, List.foldl_nil]
    by_cases known : k ∈ order front
    · have member : k ∈ seen ++ (order front).filter fun k => k ∉ seen := by
        by_cases old : k ∈ seen
        · exact List.mem_append_left _ old
        · exact List.mem_append_right _ (List.mem_filter.mpr ⟨known, by simpa using old⟩)
      rw [note_of_mem known, note_of_mem member]
    · rw [note_of_new known, List.filter_append]
      by_cases old : k ∈ seen
      · rw [note_of_mem (List.mem_append_left _ old)]
        simp [old]
      · have fresh : k ∉ seen ++ (order front).filter fun k => k ∉ seen := by
          simp [old, known]
        rw [note_of_new fresh]
        simp [old]

/-- There are as many numbers as there are different keys. -/
theorem length_order (keys : List α) : (order keys).length = keys.dedup.length := by
  apply List.Perm.length_eq
  apply (List.perm_ext_iff_of_nodup (nodup_order keys) keys.nodup_dedup).mpr
  intro a
  rw [mem_order, List.mem_dedup]

theorem place_lt {keys : List α} {k : α} (member : k ∈ keys) : place keys k < (order keys).length :=
  List.idxOf_lt_length_iff.mpr ((mem_order keys k).mpr member)

theorem place_inj {keys : List α} {k : α} (member : k ∈ keys) (a : α) : place keys k = place keys a ↔ k = a :=
  List.idxOf_inj ((mem_order keys k).mpr member)

/-- Every number below the count is taken. -/
theorem place_surj {keys : List α} {n : Nat} (below : n < (order keys).length) :
    ∃ k ∈ keys, place keys k = n := by
  refine ⟨(order keys)[n], ?_, ?_⟩
  · exact (mem_order keys _).mp (List.getElem_mem below)
  · exact (nodup_order keys).idxOf_getElem n below

end Sipmon.Lib.FirstSeen
