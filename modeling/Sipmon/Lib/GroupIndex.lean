import Mathlib.Logic.Function.Basic
import Mathlib.Data.List.Count
import Sipmon.Lib.FiniteMap

/-!
# Secondary indexes

Rows belong to groups: `owner k = some g` when row `k` exists in group `g`. An
index keeps, for each group, the list of its rows. `Indexes owner index` is the
contract: every row exactly once, in its own group, nothing else, and no empty
list. The update rules keep the contract while rows come and go.
-/
namespace Sipmon.Lib.GroupIndex

variable {K G : Type*} [DecidableEq K] [DecidableEq G]

/-- The rows of a group. -/
def members (g : G) (index : FiniteMap G (List K)) : List K := (index.lookup g).getD []

/-- Add a row to a group. -/
def push (g : G) (k : K) (index : FiniteMap G (List K)) : FiniteMap G (List K) :=
  FiniteMap.upsert g (fun present => present.getD [] ++ [k]) index

/-- Take a row out of a group; a group left without rows disappears. -/
def forget (g : G) (k : K) (index : FiniteMap G (List K)) : FiniteMap G (List K) :=
  match index.lookup g with
  | some ks =>
    let kept := ks.filter (· ≠ k)
    if kept.isEmpty then index.erase g else index.insert g kept
  | none => index

structure Indexes (owner : K → Option G) (index : FiniteMap G (List K)) : Prop where
  once : ∀ k g, owner k = some g → (members g index).count k = 1
  only : ∀ k g, k ∈ members g index → owner k = some g
  tight : ∀ g ks, index.lookup g = some ks → ks ≠ []

omit [DecidableEq K] in
theorem members_push (a g : G) (k : K) (index : FiniteMap G (List K)) :
    members a (push g k index) = if a = g then members g index ++ [k] else members a index := by
  unfold members push
  rw [FiniteMap.lookup_upsert]
  split <;> rfl

omit [DecidableEq K] in
theorem members_erase (a g : G) (index : FiniteMap G (List K)) :
    members a (index.erase g) = if a = g then [] else members a index := by
  unfold members
  rw [FiniteMap.lookup_erase_iff]
  split <;> rfl

theorem lookup_forget (a g : G) (k : K) (index : FiniteMap G (List K)) :
    (forget g k index).lookup a =
      if a = g then ((index.lookup g).map (·.filter (· ≠ k))).filter (!·.isEmpty)
      else index.lookup a := by
  unfold forget
  cases present : index.lookup g with
  | none =>
    dsimp only
    split
    · next same => rw [same, present]; rfl
    · rfl
  | some ks =>
    dsimp only [Option.map_some]
    generalize ks.filter (· ≠ k) = kept
    cases kept with
    | nil => exact FiniteMap.lookup_erase_iff a g index
    | cons j rest => exact FiniteMap.lookup_insert_iff a g (j :: rest) index

theorem members_forget (a g : G) (k : K) (index : FiniteMap G (List K)) :
    members a (forget g k index) =
      if a = g then (members g index).filter (· ≠ k) else members a index := by
  unfold members
  rw [lookup_forget]
  split
  · cases index.lookup g with
    | none => rfl
    | some ks =>
      simp only [Option.map_some, Option.getD_some]
      generalize ks.filter (· ≠ k) = kept
      cases kept <;> rfl
  · rfl

/-- Forgetting a group that is not there changes nothing. -/
theorem forget_absent {g : G} (k : K) {index : FiniteMap G (List K)}
    (absent : index.lookup g = none) : forget g k index = index := by
  rw [forget, absent]

theorem Indexes.empty : Indexes (fun _ : K => (none : Option G)) FiniteMap.empty where
  once _ _ row := nomatch row
  only k g member := by
    have none : members g (FiniteMap.empty : FiniteMap G (List K)) = [] := rfl
    rw [none] at member
    exact (List.not_mem_nil member).elim
  tight g ks present := nomatch present

theorem Indexes.member_iff {owner : K → Option G} {index : FiniteMap G (List K)}
    (holds : Indexes owner index) (k : K) (g : G) : k ∈ members g index ↔ owner k = some g := by
  refine ⟨holds.only k g, fun row => ?_⟩
  rw [← List.count_pos_iff, holds.once k g row]
  decide

theorem Indexes.nodup {owner : K → Option G} {index : FiniteMap G (List K)}
    (holds : Indexes owner index) (g : G) : (members g index).Nodup := by
  rw [List.nodup_iff_count_le_one]
  intro k
  by_cases member : k ∈ members g index
  · rw [holds.once k g (holds.only k g member)]
  · rw [List.count_eq_zero_of_not_mem member]
    decide

/-- A new row enters its group. -/
theorem Indexes.insert {owner : K → Option G} {index : FiniteMap G (List K)}
    (holds : Indexes owner index) {k : K} (g : G) (fresh : owner k = none) :
    Indexes (Function.update owner k (some g)) (push g k index) where
  once j h row := by
    have unlisted : ∀ h, (members h index).count k = 0 := fun h =>
      List.count_eq_zero_of_not_mem fun member => by simpa [fresh] using holds.only k h member
    rw [members_push]
    by_cases here : j = k
    · subst here
      obtain rfl : g = h := by simpa using row
      simp [unlisted]
    · rw [Function.update_of_ne here] at row
      have listed := holds.once j h row
      split
      · next same => subst same; simpa [List.count_singleton, Ne.symm here] using listed
      · exact listed
  only j h member := by
    rw [members_push] at member
    by_cases here : j = k
    · subst here
      have absent : ∀ h, j ∉ members h index := fun h member => by
        simpa [fresh] using holds.only j h member
      split at member
      · next same => rw [Function.update_self, same]
      · exact (absent h member).elim
    · rw [Function.update_of_ne here]
      split at member
      · next same =>
        subst same
        exact holds.only j h (by simpa [here] using member)
      · exact holds.only j h member
  tight h ks present := by
    rw [push, FiniteMap.lookup_upsert] at present
    split at present
    · simp only [Option.some.injEq] at present
      simp [← present]
    · exact holds.tight h ks present

/-- A row leaves its group; a row that is not there may be forgotten in any group. -/
theorem Indexes.remove {owner : K → Option G} {index : FiniteMap G (List K)}
    (holds : Indexes owner index) {k : K} {g : G} (own : ∀ h, owner k = some h → h = g) :
    Indexes (Function.update owner k none) (forget g k index) where
  once j h rowJ := by
    by_cases here : j = k
    · subst here
      simp at rowJ
    · rw [Function.update_of_ne here] at rowJ
      have listed := holds.once j h rowJ
      rw [members_forget]
      split
      · next same =>
        subst same
        rw [List.count_filter (by simpa using here)]
        exact listed
      · exact listed
  only j h member := by
    rw [members_forget] at member
    split at member
    · next same =>
      subst same
      obtain ⟨member, other⟩ := List.mem_filter.mp member
      rw [Function.update_of_ne (by simpa using other)]
      exact holds.only j h member
    · next other =>
      have rowJ := holds.only j h member
      rw [Function.update_of_ne, rowJ]
      rintro rfl
      exact other (own h rowJ)
  tight h ks present := by
    rw [lookup_forget] at present
    split at present
    · rw [Option.filter_eq_some_iff] at present
      simpa using present.2
    · exact holds.tight h ks present

/-- A whole group leaves at once. -/
theorem Indexes.drop {owner : K → Option G} {index : FiniteMap G (List K)}
    (holds : Indexes owner index) (g : G) :
    Indexes (fun k => (owner k).filter (· ≠ g)) (index.erase g) where
  once k h row := by
    rw [Option.filter_eq_some_iff] at row
    rw [members_erase, if_neg (by simpa using row.2)]
    exact holds.once k h row.1
  only k h member := by
    rw [members_erase] at member
    split at member
    · exact (List.not_mem_nil member).elim
    · next other =>
      rw [Option.filter_eq_some_iff]
      exact ⟨holds.only k h member, by simpa using other⟩
  tight h ks present := by
    rw [FiniteMap.lookup_erase_iff] at present
    split at present
    · exact nomatch present
    · exact holds.tight h ks present

/-- The rows of a group, read through its list, are the values that belong to it. -/
theorem Indexes.rows_perm {V : Type*} {m : FiniteMap K V} {f : V → G} {index : FiniteMap G (List K)}
    (holds : Indexes (fun k => (m.lookup k).map f) index) (g : G) :
    ((members g index).filterMap m.lookup).Perm (m.values.filter fun v => f v = g) := by
  have keys : (members g index).Perm ((m.toList.filter fun e => f e.2 = g).map Prod.fst) := by
    rw [List.perm_ext_iff_of_nodup (holds.nodup g)
      ((FiniteMap.nodup_toList_keys m).sublist (List.filter_sublist.map _))]
    intro k
    rw [holds.member_iff, Option.map_eq_some_iff, List.mem_map]
    constructor
    · rintro ⟨v, present, same⟩
      exact ⟨(k, v), List.mem_filter.mpr ⟨(FiniteMap.mem_toList m k v).mpr present, decide_eq_true same⟩, rfl⟩
    · rintro ⟨e, listed, rfl⟩
      obtain ⟨present, same⟩ := List.mem_filter.mp listed
      exact ⟨e.2, (FiniteMap.mem_toList m e.1 e.2).mp present, of_decide_eq_true same⟩
  have values : ((m.toList.filter fun e => f e.2 = g).map Prod.fst).filterMap m.lookup =
      m.values.filter fun v => f v = g := by
    have read : ∀ l : List (K × V), (∀ e ∈ l, m.lookup e.1 = some e.2) →
        (l.map Prod.fst).filterMap m.lookup = l.map Prod.snd := by
      intro l each
      induction l with
      | nil => rfl
      | cons e rest ih =>
        have others := ih fun a member => each a (List.mem_cons_of_mem e member)
        rw [List.map_cons, List.filterMap_cons, each e List.mem_cons_self, List.map_cons, others]
    rw [read _ fun e member => (FiniteMap.mem_toList m e.1 e.2).mp (List.mem_of_mem_filter member)]
    simp [FiniteMap.values, FiniteMap.toList, List.filter_map, Function.comp_def]
  rw [← values]
  exact keys.filterMap m.lookup

end Sipmon.Lib.GroupIndex
