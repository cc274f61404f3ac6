import Mathlib.Data.List.Basic

/-!
# Checked access to slices

Indexing and slicing as a language with bounds checks does them: an access out of
bounds is a fault, not a default value. `Safe` computations do not fault; they are
closed under sequencing.
-/
namespace Sipmon.Lib.CheckedAccess

inductive Fault where
  | outOfBounds
  deriving DecidableEq, Repr

abbrev Checked (α : Type) := Except Fault α

variable {ε α β : Type}

def index (data : List ε) (i : Nat) : Checked ε :=
  match data[i]? with
  | some x => .ok x
  | none => .error .outOfBounds

/-- The elements from `first` up to `last`, both within the data and in order. -/
def slice (data : List ε) (first last : Nat) : Checked (List ε) :=
  if first ≤ last ∧ last ≤ data.length then .ok ((data.take last).drop first) else .error .outOfBounds

/-- No fault. -/
def Safe (x : Checked α) : Prop := ∃ a, x = .ok a

theorem safe_ok (a : α) : Safe (.ok a) := ⟨a, rfl⟩

theorem safe_pure (a : α) : Safe (pure a) := ⟨a, rfl⟩

theorem Safe.bind {x : Checked α} {f : α → Checked β} (first : Safe x) (next : ∀ a, Safe (f a)) :
    Safe (x >>= f) := by
  obtain ⟨a, rfl⟩ := first
  exact next a

theorem safe_index {data : List ε} {i : Nat} (inside : i < data.length) : Safe (index data i) := by
  unfold index
  rw [List.getElem?_eq_getElem inside]
  exact safe_ok _

theorem safe_slice {data : List ε} {first last : Nat} (ordered : first ≤ last) (inside : last ≤ data.length) :
    Safe (slice data first last) := by
  unfold slice
  rw [if_pos ⟨ordered, inside⟩]
  exact safe_ok _

@[simp] theorem index_cons_zero (x : ε) (rest : List ε) : index (x :: rest) 0 = .ok x := rfl

@[simp] theorem index_cons_succ (x : ε) (rest : List ε) (i : Nat) :
    index (x :: rest) (i + 1) = index rest i := rfl

/-- What comes before does not matter behind it. -/
theorem index_append (front rest : List ε) (i : Nat) :
    index (front ++ rest) (front.length + i) = index rest i := by
  simp [index, List.getElem?_append_right]

/-- An offset is the front of what is behind it. -/
theorem index_drop (data : List ε) (i k : Nat) : index data (i + k) = index (data.drop i) k := by
  simp [index]

/-- The middle of three parts. -/
theorem slice_append (front middle back : List ε) :
    slice (front ++ (middle ++ back)) front.length (front.length + middle.length) = .ok middle := by
  simp [slice, List.take_append]

/-- All but the front. -/
theorem slice_rest (front rest : List ε) :
    slice (front ++ rest) front.length (front ++ rest).length = .ok rest := by
  rw [slice, if_pos ⟨by simp, Nat.le_refl _⟩, List.take_length, List.drop_left]

theorem slice_drop {data : List ε} {first count : Nat} (inside : first + count ≤ data.length) :
    slice data first (first + count) = .ok ((data.drop first).take count) := by
  rw [slice, if_pos ⟨Nat.le_add_right _ _, inside⟩, List.drop_take, Nat.add_sub_cancel_left]

@[simp] theorem ok_bind (a : α) (f : α → Checked β) : ((.ok a : Checked α) >>= f) = f a := rfl

end Sipmon.Lib.CheckedAccess
