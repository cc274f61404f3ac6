import Mathlib.Algebra.BigOperators.Group.List.Basic
import Mathlib.Algebra.Order.Ring.Nat
import Mathlib.Data.List.AList

/-!
# Finite maps with in-place updates

A finite map is an association list without duplicate keys. The operations are
those of a mutable hash table: update a present value, update through the entry
(present or not), keep what a predicate accepts, and remove several keys. Each
has its lookup law.
-/
namespace Sipmon.Lib

/-- A map from `K` to `V` with finitely many keys. -/
abbrev FiniteMap (K V : Type*) := AList (fun _ : K => V)

/-- The order in which one pass over a hash table visits its entries: any
permutation of them. -/
structure Iteration where
  order : {α : Type} → List α → List α
  perm : ∀ {α : Type} (l : List α), (order l).Perm l

theorem Iteration.mem_order (iter : Iteration) {α : Type} (l : List α) (a : α) :
    a ∈ iter.order l ↔ a ∈ l := (iter.perm l).mem_iff

/-- The order of a pass does not depend on what the entries hold. -/
def Iteration.Natural (iter : Iteration) : Prop :=
  ∀ {α β : Type} (f : α → β) (l : List α), iter.order (l.map f) = (iter.order l).map f

/-- Entries in the order of the list. -/
def Iteration.stored : Iteration := ⟨fun l => l, fun _ => .refl _⟩

namespace FiniteMap

variable {K V : Type*} [DecidableEq K]

def empty : FiniteMap K V := ∅

/-- Number of keys. -/
def size (m : FiniteMap K V) : Nat := m.entries.length

def toList (m : FiniteMap K V) : List (K × V) := m.entries.map fun e => (e.1, e.2)
def values (m : FiniteMap K V) : List V := m.entries.map Sigma.snd

/-- Change the value of `k` where it is present. -/
def modify (k : K) (f : V → V) (m : FiniteMap K V) : FiniteMap K V :=
  match m.lookup k with
  | some v => m.insert k (f v)
  | none => m

/-- Insert or change the value of `k`, given the present one. -/
def upsert (k : K) (f : Option V → V) (m : FiniteMap K V) : FiniteMap K V :=
  m.insert k (f (m.lookup k))

/-- Keep the entries `p` accepts. -/
def retain (p : K → V → Bool) (m : FiniteMap K V) : FiniteMap K V :=
  ⟨m.entries.filter fun e => p e.1 e.2, m.nodupKeys.sublist List.filter_sublist⟩

theorem lookup_insert_iff (a k : K) (v : V) (m : FiniteMap K V) :
    (m.insert k v).lookup a = if a = k then some v else m.lookup a := by
  by_cases same : a = k
  · subst same
    rw [AList.lookup_insert, if_pos rfl]
  · rw [AList.lookup_insert_ne same, if_neg same]

theorem lookup_erase_iff (a k : K) (m : FiniteMap K V) :
    (m.erase k).lookup a = if a = k then none else m.lookup a := by
  by_cases same : a = k
  · subst same
    rw [AList.lookup_erase, if_pos rfl]
  · rw [AList.lookup_erase_ne same, if_neg same]

theorem lookup_modify (a k : K) (f : V → V) (m : FiniteMap K V) :
    (modify k f m).lookup a = if a = k then (m.lookup a).map f else m.lookup a := by
  unfold modify
  cases present : m.lookup k with
  | some v =>
    simp only [lookup_insert_iff]
    split
    · next same => rw [same, present]; rfl
    · rfl
  | none =>
    dsimp only
    split
    · next same => rw [same, present]; rfl
    · rfl

theorem lookup_upsert (a k : K) (f : Option V → V) (m : FiniteMap K V) :
    (upsert k f m).lookup a = if a = k then some (f (m.lookup k)) else m.lookup a :=
  lookup_insert_iff a k _ m

theorem mem_modify (a k : K) (f : V → V) (m : FiniteMap K V) : a ∈ modify k f m ↔ a ∈ m := by
  rw [← AList.lookup_isSome, ← AList.lookup_isSome, lookup_modify]
  split <;> simp

theorem lookup_retain (p : K → V → Bool) (m : FiniteMap K V) (a : K) :
    (retain p m).lookup a = (m.lookup a).filter (p a) := by
  apply Option.ext
  intro v
  rw [← Option.mem_def, AList.mem_lookup_iff, Option.filter_eq_some_iff, ← Option.mem_def,
    AList.mem_lookup_iff]
  exact List.mem_filter

omit [DecidableEq K] in
theorem retain_eq_self {p : K → V → Bool} {m : FiniteMap K V}
    (kept : ∀ e ∈ m.toList, p e.1 e.2 = true) : retain p m = m := by
  refine AList.ext (List.filter_eq_self.mpr fun e member => ?_)
  exact kept (e.1, e.2) (List.mem_map.mpr ⟨e, member, rfl⟩)

theorem mem_toList (m : FiniteMap K V) (a : K) (v : V) :
    (a, v) ∈ m.toList ↔ m.lookup a = some v := by
  rw [← Option.mem_def, AList.mem_lookup_iff]
  simp [toList]

theorem mem_values (m : FiniteMap K V) (v : V) : v ∈ m.values ↔ ∃ k, m.lookup k = some v := by
  constructor
  · intro member
    obtain ⟨e, listed, rfl⟩ := List.mem_map.mp member
    exact ⟨e.1, AList.mem_lookup_iff.mpr listed⟩
  · rintro ⟨k, present⟩
    exact List.mem_map.mpr ⟨⟨k, v⟩, AList.mem_lookup_iff.mp present, rfl⟩

omit [DecidableEq K] in
theorem size_eq_keys (m : FiniteMap K V) : m.size = m.keys.length := by
  simp [size, AList.keys, List.keys]

theorem size_modify (k : K) (f : V → V) (m : FiniteMap K V) : (modify k f m).size = m.size := by
  unfold modify
  split
  · next v present =>
    have member : k ∈ m := AList.lookup_isSome.mp (Option.isSome_of_eq_some present)
    have listed : k ∈ m.keys := AList.mem_keys.mp member
    have some := List.length_pos_of_mem listed
    rw [size_eq_keys, size_eq_keys, AList.keys_insert, List.length_cons,
      List.length_erase_of_mem listed]
    omega
  · rfl

omit [DecidableEq K] in
/-- A map with fewer keys is smaller. -/
theorem size_le_of_mem {m n : FiniteMap K V} (subset : ∀ k, k ∈ m → k ∈ n) : m.size ≤ n.size := by
  rw [size_eq_keys, size_eq_keys]
  refine (List.subperm_of_subset m.keys_nodup fun k member => ?_).length_le
  exact AList.mem_keys.mp (subset k (AList.mem_keys.mpr member))

/-- Remove every key of a list. -/
def eraseAll (ks : List K) (m : FiniteMap K V) : FiniteMap K V := ks.foldl (fun m k => m.erase k) m

theorem lookup_eraseAll (ks : List K) (m : FiniteMap K V) (a : K) :
    (eraseAll ks m).lookup a = if a ∈ ks then none else m.lookup a := by
  induction ks generalizing m with
  | nil => simp [eraseAll]
  | cons k rest ih =>
    rw [eraseAll, List.foldl_cons, ← eraseAll, ih, lookup_erase_iff]
    by_cases here : a = k <;> by_cases there : a ∈ rest <;> simp [here, there]

theorem size_erase {k : K} {m : FiniteMap K V} (member : k ∈ m) :
    FiniteMap.size (m.erase k) + 1 = m.size := by
  have listed : k ∈ m.keys := AList.mem_keys.mp member
  have positive := List.length_pos_of_mem listed
  rw [size_eq_keys, size_eq_keys, AList.keys_erase, List.length_erase_of_mem listed]
  omega

/-- Removing distinct keys that are there. -/
theorem size_eraseAll {ks : List K} {m : FiniteMap K V} (distinct : ks.Nodup)
    (present : ∀ k ∈ ks, k ∈ m) : (eraseAll ks m).size + ks.length = m.size := by
  induction ks generalizing m with
  | nil => rfl
  | cons k rest ih =>
    obtain ⟨fresh, distinct⟩ := List.nodup_cons.mp distinct
    have others : ∀ j ∈ rest, j ∈ m.erase k := fun j member =>
      AList.mem_erase.mpr ⟨fun same => fresh (same ▸ member), present j (List.mem_cons_of_mem k member)⟩
    have removed := ih distinct others
    have first := size_erase (present k List.mem_cons_self)
    rw [eraseAll, List.foldl_cons, ← eraseAll, List.length_cons]
    omega

omit [DecidableEq K] in
/-- A key is listed once. -/
theorem nodup_toList_keys (m : FiniteMap K V) : (m.toList.map Prod.fst).Nodup := by
  have keys : m.toList.map Prod.fst = m.keys := by
    rw [toList, List.map_map]
    rfl
  rw [keys]
  exact m.keys_nodup

/-! ## Totals -/

/-- The sum of a number read off every value. -/
def total (f : V → Nat) (m : FiniteMap K V) : Nat := (m.entries.map fun e => f e.2).sum

omit [DecidableEq K] in
theorem total_empty (f : V → Nat) : total f (empty : FiniteMap K V) = 0 := rfl

theorem sum_kerase (f : V → Nat) (k : K) (l : List (Sigma fun _ : K => V)) :
    ((l.kerase k).map fun e => f e.2).sum + ((l.dlookup k).map f).getD 0 =
      (l.map fun e => f e.2).sum := by
  induction l with
  | nil => rfl
  | cons e rest ih =>
    by_cases here : k = e.1
    · subst here
      rw [List.kerase_cons_eq rfl, List.dlookup_cons_eq, List.map_cons, List.sum_cons]
      exact Nat.add_comm _ _
    · rw [List.kerase_cons_ne here, List.dlookup_cons_ne rest e here, List.map_cons, List.map_cons,
        List.sum_cons, List.sum_cons]
      omega

theorem total_erase (f : V → Nat) (k : K) (m : FiniteMap K V) :
    total f (m.erase k) + ((m.lookup k).map f).getD 0 = total f m := sum_kerase f k m.entries

theorem total_insert (f : V → Nat) (k : K) (v : V) (m : FiniteMap K V) :
    total f (m.insert k v) + ((m.lookup k).map f).getD 0 = total f m + f v := by
  have rest := total_erase f k m
  have front : total f (m.insert k v) = f v + total f (m.erase k) := rfl
  omega

/-- Changing a value moves the total by the change of its number. -/
theorem total_modify (f : V → Nat) (k : K) (g : V → V) (m : FiniteMap K V) :
    total f (modify k g m) + ((m.lookup k).map f).getD 0 =
      total f m + ((m.lookup k).map (f ∘ g)).getD 0 := by
  unfold modify
  cases present : m.lookup k with
  | none => rfl
  | some v =>
    have inserted := total_insert f k (g v) m
    rw [present] at inserted
    exact inserted

/-- Nothing adds up where every value counts nothing. -/
theorem total_of_zero {f : V → Nat} {m : FiniteMap K V}
    (zero : ∀ k v, m.lookup k = some v → f v = 0) : total f m = 0 := by
  refine List.sum_eq_zero_iff_forall_eq_nat.mpr fun n listed => ?_
  obtain ⟨e, member, rfl⟩ := List.mem_map.mp listed
  exact zero e.1 e.2 (AList.mem_lookup_iff.mpr member)

/-- What a key adds to a total. -/
def share (f : V → Nat) (m : FiniteMap K V) (k : K) : Nat := ((m.lookup k).map f).getD 0

/-- A total is at most one in which every key adds at least as much. -/
theorem total_mono {f : V → Nat} {m n : FiniteMap K V} (less : ∀ k, share f m k ≤ share f n k) :
    total f m ≤ total f n := by
  induction size : m.size using Nat.strong_induction_on generalizing m n with
  | _ size' ih =>
    subst size
    by_cases nonempty : ∃ k, k ∈ m
    · obtain ⟨k, member⟩ := nonempty
      have smaller : FiniteMap.size (m.erase k) < m.size := by
        have erased := size_erase member
        omega
      have rest : ∀ a, share f (m.erase k) a ≤ share f (n.erase k) a := by
        intro a
        by_cases here : a = k
        · rw [here, share, share, AList.lookup_erase, AList.lookup_erase]
        · have kept := less a
          rwa [share, share, AList.lookup_erase_ne here, AList.lookup_erase_ne here]
      have others := ih (FiniteMap.size (m.erase k)) smaller rest rfl
      have first : total f (m.erase k) + share f m k = total f m := total_erase f k m
      have second : total f (n.erase k) + share f n k = total f n := total_erase f k n
      have here := less k
      omega
    · have nothing : total f m = 0 := total_of_zero fun k v present =>
        absurd (AList.lookup_isSome.mp (Option.isSome_of_eq_some present)) fun member => nonempty ⟨k, member⟩
      omega

/-- Totals agree where every key adds the same. -/
theorem total_congr {f : V → Nat} {m n : FiniteMap K V} (same : ∀ k, share f m k = share f n k) :
    total f m = total f n :=
  Nat.le_antisymm (total_mono fun k => (same k).le) (total_mono fun k => (same k).ge)

/-- Where all other keys add the same, the totals differ by what one key adds. -/
theorem total_shift {f : V → Nat} {m n : FiniteMap K V} (k : K)
    (same : ∀ a, a ≠ k → share f m a = share f n a) :
    total f m + share f n k = total f n + share f m k := by
  have rest : total f (m.erase k) = total f (n.erase k) := by
    refine total_congr fun a => ?_
    by_cases here : a = k
    · rw [here, share, share, AList.lookup_erase, AList.lookup_erase]
    · have kept := same a here
      rwa [share, share, AList.lookup_erase_ne here, AList.lookup_erase_ne here]
  have first : total f (m.erase k) + share f m k = total f m := total_erase f k m
  have second : total f (n.erase k) + share f n k = total f n := total_erase f k n
  omega

theorem total_modify_of_keeps {f : V → Nat} {g : V → V} (keeps : ∀ v, f (g v) = f v) (k : K)
    (m : FiniteMap K V) : total f (modify k g m) = total f m := by
  have moved := total_modify f k g m
  have same : f ∘ g = f := funext keeps
  rw [same] at moved
  omega

/-- Distinct keys add at most the total. -/
theorem sum_share_le {ks : List K} (distinct : ks.Nodup) (f : V → Nat) (m : FiniteMap K V) :
    (ks.map (share f m)).sum ≤ total f m := by
  induction ks generalizing m with
  | nil => exact Nat.zero_le _
  | cons k rest ih =>
    obtain ⟨fresh, distinct⟩ := List.nodup_cons.mp distinct
    have others : rest.map (share f (m.erase k)) = rest.map (share f m) := by
      refine List.map_congr_left fun a member => ?_
      have differs : a ≠ k := fun same => fresh (same ▸ member)
      rw [share, share, AList.lookup_erase_ne differs]
    have below := ih distinct (m.erase k)
    have first : total f (m.erase k) + share f m k = total f m := total_erase f k m
    rw [others] at below
    rw [List.map_cons, List.sum_cons]
    omega

omit [DecidableEq K] in
theorem total_eq_sum (f : V → Nat) (m : FiniteMap K V) :
    total f m = (m.toList.map fun e => f e.2).sum := by
  rw [toList, List.map_map]
  rfl

/-- Where a map has lost keys and every other value counts the same, the totals
differ by what the lost keys counted. -/
theorem total_lost {f : V → Nat} {m n : FiniteMap K V}
    (kept : ∀ k v, n.lookup k = some v → ∃ u, m.lookup k = some u ∧ f v = f u) :
    total f n + ((m.toList.filter fun e => e.1 ∉ n).map fun e => f e.2).sum = total f m := by
  have stayed : total f n = ((m.toList.filter fun e => e.1 ∈ n).map fun e => f e.2).sum := by
    have retained : total f (retain (fun k _ => decide (k ∈ n)) m) =
        ((m.toList.filter fun e => e.1 ∈ n).map fun e => f e.2).sum := by
      rw [total_eq_sum, toList, toList, retain, List.filter_map]
      rfl
    rw [← retained]
    refine total_congr fun k => ?_
    rw [share, share, lookup_retain]
    cases here : n.lookup k with
    | none =>
      have absent : k ∉ n := AList.lookup_eq_none.mp here
      cases m.lookup k with
      | none => rfl
      | some u => rw [Option.filter_some, if_neg (by simpa using absent)]
    | some v =>
      obtain ⟨u, before, same⟩ := kept k v here
      have present : k ∈ n := AList.lookup_isSome.mp (Option.isSome_of_eq_some here)
      rw [before, Option.filter_some, if_pos (by simpa using present)]
      exact same
  rw [stayed, total_eq_sum f m]
  exact List.sum_map_filter_add_sum_map_filter_not _ _ _

/-! ## Mapping the values -/

section MapValues

variable {W : Type*}

/-- Every value mapped, the order of the entries kept. -/
def mapValues (g : V → W) (m : FiniteMap K V) : FiniteMap K W :=
  ⟨m.entries.map fun e => ⟨e.1, g e.2⟩, m.nodupKeys.map₂ fun _ v => g v⟩

theorem lookup_mapValues (g : V → W) (m : FiniteMap K V) (k : K) :
    (mapValues g m).lookup k = (m.lookup k).map g :=
  List.dlookup_map₂ (l := m.entries) (f := fun _ v => g v) k

theorem mem_mapValues (g : V → W) (m : FiniteMap K V) (k : K) : k ∈ mapValues g m ↔ k ∈ m := by
  rw [← AList.lookup_isSome, ← AList.lookup_isSome, lookup_mapValues, Option.isSome_map]

omit [DecidableEq K] in
theorem size_mapValues (g : V → W) (m : FiniteMap K V) : (mapValues g m).size = m.size := List.length_map _

omit [DecidableEq K] in
theorem toList_mapValues (g : V → W) (m : FiniteMap K V) :
    (mapValues g m).toList = m.toList.map fun e => (e.1, g e.2) := by
  simp only [toList, mapValues, List.map_map]
  rfl

omit [DecidableEq K] in
theorem values_mapValues (g : V → W) (m : FiniteMap K V) : (mapValues g m).values = m.values.map g := by
  simp only [values, mapValues, List.map_map]
  rfl

omit [DecidableEq K] in
theorem mapValues_mapValues {U : Type*} (h : W → U) (g : V → W) (m : FiniteMap K V) :
    mapValues h (mapValues g m) = mapValues (h ∘ g) m :=
  AList.ext (List.map_map)

theorem kerase_map (g : V → W) (k : K) (l : List (Sigma fun _ : K => V)) :
    ((l.kerase k).map fun e => (⟨e.1, g e.2⟩ : Sigma fun _ : K => W)) =
      (l.map fun e => (⟨e.1, g e.2⟩ : Sigma fun _ : K => W)).kerase k := by
  induction l with
  | nil => rfl
  | cons e rest ih =>
    by_cases here : k = e.1
    · rw [List.kerase_cons_eq here, List.map_cons, List.kerase_cons_eq (by exact here)]
    · rw [List.kerase_cons_ne here, List.map_cons, List.map_cons, List.kerase_cons_ne (by exact here), ih]

theorem mapValues_erase (g : V → W) (k : K) (m : FiniteMap K V) :
    mapValues g (m.erase k) = (mapValues g m).erase k := AList.ext (kerase_map g k m.entries)

theorem mapValues_insert (g : V → W) (k : K) (v : V) (m : FiniteMap K V) :
    mapValues g (m.insert k v) = (mapValues g m).insert k (g v) :=
  AList.ext (congrArg (List.cons _) (kerase_map g k m.entries))

/-- Two changes that look alike through `g` leave maps that do. -/
theorem mapValues_modify_congr {g : V → W} {f f' : V → V}
    (alike : ∀ v w, g v = g w → g (f v) = g (f' w)) (k : K) {m n : FiniteMap K V}
    (same : mapValues g m = mapValues g n) :
    mapValues g (modify k f m) = mapValues g (modify k f' n) := by
  have here : (m.lookup k).map g = (n.lookup k).map g := by
    rw [← lookup_mapValues, ← lookup_mapValues, same]
  unfold modify
  cases left : m.lookup k with
  | none =>
    rw [left, Option.map_none] at here
    rw [Option.map_eq_none_iff.mp here.symm]
    exact same
  | some v =>
    rw [left, Option.map_some] at here
    obtain ⟨w, right, shown⟩ := Option.map_eq_some_iff.mp here.symm
    rw [right]
    dsimp only
    rw [mapValues_insert, mapValues_insert, same, alike v w shown.symm]

/-- Changing the entry in front to what looks the same is invisible through `g`. -/
theorem mapValues_modify_front {g : V → W} {f : V → V} (keeps : ∀ v, g (f v) = g v) {k : K}
    {m : FiniteMap K V} (front : m.keys.head? = some k) :
    mapValues g (modify k f m) = mapValues g m := by
  obtain ⟨entries, nodup⟩ := m
  cases entries with
  | nil => cases front
  | cons e rest =>
    obtain ⟨a, v⟩ := e
    obtain rfl : a = k := Option.some.inj front
    have present : AList.lookup a (⟨⟨a, v⟩ :: rest, nodup⟩ : FiniteMap K V) = some v :=
      List.dlookup_cons_eq rest a v
    unfold modify
    rw [present]
    dsimp only
    have behind : List.kerase a (⟨a, v⟩ :: rest) = rest := List.kerase_cons_eq rfl
    have inserted : (AList.insert a (f v) (⟨⟨a, v⟩ :: rest, nodup⟩ : FiniteMap K V)).entries =
        ⟨a, f v⟩ :: rest := congrArg (List.cons _) behind
    refine AList.ext ?_
    simp only [mapValues, inserted, List.map_cons, keeps]

end MapValues

end FiniteMap
end Sipmon.Lib
