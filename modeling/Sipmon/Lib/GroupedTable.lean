import Mathlib.Algebra.BigOperators.Group.List.Basic
import Sipmon.Lib.FiniteMap

/-!
# Tables with one row per group of the inputs

Inputs carry the key of their group, or none. A table describes the inputs when
it has a row for exactly the groups that occur, each row in relation to the
inputs of its group, in their order. Updating the row of a key through its
entry keeps this when one row keeps it. A figure that adds up over the inputs of
a group adds up over the rows to the figure of all inputs with a key.
-/
namespace Sipmon.Lib.GroupedTable

variable {K V A : Type*} [DecidableEq K] {key : A → Option K}

/-- The inputs of one group. -/
def group (key : A → Option K) (k : K) (inputs : List A) : List A :=
  inputs.filter fun a => key a = some k

theorem group_append_own {k : K} {a : A} (own : key a = some k) (inputs : List A) :
    group key k (inputs ++ [a]) = group key k inputs ++ [a] := by
  simp [group, own]

theorem group_append_other {k : K} {a : A} (other : key a ≠ some k) (inputs : List A) :
    group key k (inputs ++ [a]) = group key k inputs := by
  simp [group, other]

theorem group_eq_nil {k : K} {inputs : List A} : group key k inputs = [] ↔ ∀ a ∈ inputs, key a ≠ some k := by
  simp [group]

structure Describes (key : A → Option K) (R : V → List A → Prop) (table : FiniteMap K V)
    (inputs : List A) : Prop where
  present : ∀ k, k ∈ table ↔ ∃ a ∈ inputs, key a = some k
  rows : ∀ k v, table.lookup k = some v → R v (group key k inputs)

variable {R S : V → List A → Prop} {table : FiniteMap K V} {inputs : List A}

theorem describes_nil : Describes key R (FiniteMap.empty : FiniteMap K V) ([] : List A) where
  present := by simp [FiniteMap.empty]
  rows := by simp [FiniteMap.empty]

/-- An input of no group; the relation may have moved on. -/
theorem Describes.skip (described : Describes key R table inputs) {a : A} (free : key a = none)
    (kept : ∀ k v, table.lookup k = some v → R v (group key k inputs) → S v (group key k inputs)) :
    Describes key S table (inputs ++ [a]) := by
  constructor
  · intro k
    simp [described.present, free]
  · intro k v found
    rw [group_append_other (by simp [free])]
    exact kept k v found (described.rows k v found)

/-- An input updates the row of its key, from the initial row when there is none. -/
theorem Describes.upsert (described : Describes key R table inputs) {a : A} {k : K}
    (own : key a = some k) {init : V} (initial : R init []) {update : V → V}
    (kept : ∀ i v, table.lookup i = some v → R v (group key i inputs) → S v (group key i inputs))
    (moved : ∀ v, R v (group key k inputs) → S (update v) (group key k inputs ++ [a])) :
    Describes key S (table.upsert k fun row => update (row.getD init)) (inputs ++ [a]) := by
  constructor
  · intro i
    rw [FiniteMap.upsert, AList.mem_insert, described.present]
    constructor
    · rintro (rfl | ⟨b, member, same⟩)
      · exact ⟨a, by simp, own⟩
      · exact ⟨b, by simp [member], same⟩
    · rintro ⟨b, member, same⟩
      rcases List.mem_append.mp member with old | new
      · exact .inr ⟨b, old, same⟩
      · obtain rfl := List.mem_singleton.mp new
        exact .inl (Option.some.inj (same.symm.trans own))
  · intro i v found
    rw [FiniteMap.lookup_upsert] at found
    by_cases here : i = k
    · subst here
      rw [if_pos rfl] at found
      obtain rfl := Option.some.inj found
      rw [group_append_own own]
      apply moved
      cases row : table.lookup i with
      | some v => exact described.rows i v row
      | none =>
        have absent : ∀ b ∈ inputs, key b ≠ some i := fun b member same =>
          AList.lookup_eq_none.mp row ((described.present i).mpr ⟨b, member, same⟩)
        rw [group_eq_nil.mpr absent]
        exact initial
    · rw [if_neg here] at found
      have other : key a ≠ some i := fun same => here (Option.some.inj (same.symm.trans own))
      rw [group_append_other other]
      exact kept i v found (described.rows i v found)

/-! ## Figures that add up -/

/-- Distinct keys split the inputs they are the keys of. -/
theorem sum_groups {ks : List K} (distinct : ks.Nodup) (weight : A → Nat) (inputs : List A) :
    (ks.map fun k => ((group key k inputs).map weight).sum).sum =
      ((inputs.filter fun a => (key a).any (· ∈ ks)).map weight).sum := by
  induction inputs with
  | nil => simp [group]
  | cons a rest ih =>
    have split : ∀ k, ((group key k (a :: rest)).map weight).sum =
        (if key a = some k then weight a else 0) + ((group key k rest).map weight).sum := by
      intro k
      by_cases own : key a = some k <;> simp [group, own]
    have front : (ks.map fun k => if key a = some k then weight a else 0).sum =
        if (key a).any (· ∈ ks) then weight a else 0 := by
      clear ih split
      induction ks with
      | nil => simp
      | cons k others ih =>
        obtain ⟨fresh, distinct⟩ := List.nodup_cons.mp distinct
        rw [List.map_cons, List.sum_cons, ih distinct]
        cases own : key a with
        | none => simp
        | some i =>
          by_cases here : i = k
          · subst here
            simp [fresh]
          · simp [here]
    simp only [split]
    rw [List.sum_map_add, ih, front, List.filter_cons]
    split <;> simp

/-- The rows add up to the figure of all inputs with a key. -/
theorem Describes.total (described : Describes key R table inputs) {figure : V → Nat} {weight : A → Nat}
    (adds : ∀ v l, R v l → figure v = (l.map weight).sum) :
    FiniteMap.total figure table = ((inputs.filter fun a => (key a).isSome).map weight).sum := by
  have rows : table.toList.map (fun e => figure e.2) =
      (table.toList.map Prod.fst).map fun k => ((group key k inputs).map weight).sum := by
    rw [List.map_map]
    apply List.map_congr_left
    rintro ⟨k, v⟩ listed
    exact adds v _ (described.rows k v ((FiniteMap.mem_toList table k v).mp listed))
  have keyed : (inputs.filter fun a => (key a).any (· ∈ table.toList.map Prod.fst)) =
      inputs.filter fun a => (key a).isSome := by
    apply List.filter_congr
    intro a member
    cases own : key a with
    | none => rfl
    | some k =>
      have present := (described.present k).mpr ⟨a, member, own⟩
      obtain ⟨v, found⟩ := Option.isSome_iff_exists.mp (AList.lookup_isSome.mpr present)
      simp only [Option.any_some, Option.isSome_some, decide_eq_true_eq]
      exact List.mem_map.mpr ⟨(k, v), (FiniteMap.mem_toList table k v).mpr found, rfl⟩
  rw [FiniteMap.total_eq_sum, rows, sum_groups (FiniteMap.nodup_toList_keys table), keyed]

/-- Where inputs without a key weigh nothing, the rows add up to all inputs. -/
theorem Describes.total_all (described : Describes key R table inputs) {figure : V → Nat} {weight : A → Nat}
    (adds : ∀ v l, R v l → figure v = (l.map weight).sum) (light : ∀ a, key a = none → weight a = 0) :
    FiniteMap.total figure table = (inputs.map weight).sum := by
  rw [described.total adds]
  clear described
  induction inputs with
  | nil => rfl
  | cons a rest ih =>
    cases own : key a with
    | none => simp [own, ih, light a own]
    | some k => simp [own, ih]

end Sipmon.Lib.GroupedTable
