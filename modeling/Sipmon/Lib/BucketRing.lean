import Mathlib.Algebra.BigOperators.Group.List.Basic
import Mathlib.Algebra.Group.Hom.Defs
import Mathlib.Data.List.Range

/-!
# Rings of consecutive buckets

A ring keeps one value for each of a row of consecutive buckets, oldest first.
The bucket of number `i` stands under the key `i * width`. What samples amount to
in one bucket is their tally; a ring is exact for the samples read if it holds the
tallies of its buckets, and all the samples of the last `retain` buckets.
-/
namespace Sipmon.Lib.BucketRing

variable {α β : Type*}

/-- The buckets from number `start` on, `n` of them. -/
def layout (width start n : Nat) (content : Nat → β) : List (Nat × β) :=
  (List.range' start n).map fun i => (i * width, content i)

@[simp] theorem length_layout (width start n : Nat) (content : Nat → β) :
    (layout width start n content).length = n := by
  simp [layout]

theorem keys_layout (width start n : Nat) (content : Nat → β) :
    (layout width start n content).map Prod.fst = (List.range' start n).map (· * width) := by
  simp [layout, Function.comp_def]

/-- Only the buckets of the ring matter. -/
theorem layout_congr {width start n : Nat} {content other : Nat → β}
    (same : ∀ i, start ≤ i → i < start + n → content i = other i) :
    layout width start n content = layout width start n other := by
  apply List.map_congr_left
  intro i member
  obtain ⟨after, before⟩ := List.mem_range'_1.mp member
  rw [same i after before]

theorem layout_append (width start n m : Nat) (content : Nat → β) :
    layout width start (n + m) content =
      layout width start n content ++ layout width (start + n) m content := by
  have split := @List.range'_append start n m 1
  rw [Nat.one_mul] at split
  rw [layout, layout, layout, ← List.map_append, split]

theorem layout_succ (width start n : Nat) (content : Nat → β) :
    layout width start (n + 1) content =
      layout width start n content ++ [((start + n) * width, content (start + n))] :=
  layout_append width start n 1 content

theorem layout_cons (width start n : Nat) (content : Nat → β) :
    layout width start (n + 1) content =
      (start * width, content start) :: layout width (start + 1) n content := by
  simp [layout, List.range'_succ]

theorem drop_layout (width start n m : Nat) (content : Nat → β) :
    (layout width start n content).drop m = layout width (start + m) (n - m) content := by
  simp [layout, ← List.map_drop, List.drop_range']

theorem head?_layout (width start n : Nat) (content : Nat → β) :
    (layout width start (n + 1) content).head? = some (start * width, content start) := by
  rw [layout_cons]
  rfl

theorem getLast?_layout (width start n : Nat) (content : Nat → β) :
    (layout width start (n + 1) content).getLast? = some ((start + n) * width, content (start + n)) := by
  rw [layout_succ, List.getLast?_append]
  rfl

/-- A row of empty buckets behind the ring. -/
theorem layout_pad [Zero β] (width start n m : Nat) (content : Nat → β) :
    layout width start n content ++ layout width (start + n) m (fun _ => 0) =
      layout width start (n + m) fun i => if i < start + n then content i else 0 := by
  rw [layout_append]
  congr 1
  · exact layout_congr fun i _ before => (if_pos before).symm
  · exact layout_congr fun i after _ => (if_neg (Nat.not_lt.mpr after)).symm

/-- Changing the bucket at an index. -/
theorem modify_layout (width start n i : Nat) (content : Nat → β) (f : β → β) :
    (layout width start n content).modify i (fun e => (e.1, f e.2)) =
      layout width start n fun k => if k = start + i then f (content k) else content k := by
  induction i generalizing start n with
  | zero =>
    cases n with
    | zero => rfl
    | succ n =>
      rw [layout_cons, layout_cons, List.modify_zero_cons, if_pos (Nat.add_zero start).symm]
      refine congrArg (List.cons _) (layout_congr fun k after _ => ?_)
      rw [if_neg (by omega)]
  | succ i ih =>
    cases n with
    | zero => rfl
    | succ n =>
      rw [layout_cons, layout_cons, List.modify_succ_cons, ih, if_neg (by omega)]
      refine congrArg (List.cons _) (layout_congr fun k after _ => ?_)
      rw [Nat.add_right_comm, Nat.add_assoc start i 1]

/-- The last `n` buckets. -/
theorem take_reverse_layout (width start n m : Nat) (content : Nat → β) :
    (layout width start n content).reverse.take m =
      (layout width (start + (n - m)) (n - (n - m)) content).reverse := by
  rw [List.take_reverse, length_layout, drop_layout]

theorem mem_layout {width start n : Nat} {content : Nat → β} {e : Nat × β} :
    e ∈ layout width start n content ↔
      ∃ i, start ≤ i ∧ i < start + n ∧ e = (i * width, content i) := by
  unfold layout
  simp only [List.mem_map, List.mem_range'_1]
  exact ⟨fun ⟨i, ⟨a, b⟩, same⟩ => ⟨i, a, b, same.symm⟩, fun ⟨i, a, b, same⟩ => ⟨i, ⟨a, b⟩, same.symm⟩⟩

theorem lookup_layout {start n : Nat} {content : Nat → β} (k : Nat) :
    (layout 1 start n content).lookup k =
      if start ≤ k ∧ k < start + n then some (content k) else none := by
  induction n generalizing start with
  | zero => rw [if_neg (by omega)]; rfl
  | succ n ih =>
    rw [layout_cons, List.lookup_cons, ih, Nat.mul_one]
    by_cases own : k = start
    · subst own
      simp
    · rw [beq_eq_false_iff_ne.mpr own]
      dsimp only
      by_cases inside : start + 1 ≤ k ∧ k < start + 1 + n
      · rw [if_pos inside, if_pos (by omega)]
      · rw [if_neg inside, if_neg (by omega)]

theorem findIdx?_layout {start n : Nat} {content : Nat → β} (k : Nat) :
    (layout 1 start n content).findIdx? (fun e => e.1 == k) =
      if start ≤ k ∧ k < start + n then some (k - start) else none := by
  induction n generalizing start with
  | zero => rw [if_neg (by omega)]; rfl
  | succ n ih =>
    rw [layout_cons, List.findIdx?_cons, ih, Nat.mul_one]
    by_cases own : start = k
    · subst own
      simp
    · rw [beq_eq_false_iff_ne.mpr own, if_neg Bool.false_ne_true]
      by_cases inside : start + 1 ≤ k ∧ k < start + 1 + n
      · rw [if_pos inside, if_pos (by omega)]
        have place : k - (start + 1) + 1 = k - start := by omega
        simp [place]
      · rw [if_neg inside, if_neg (by omega)]
        rfl

/-! ## Tallies -/

variable [AddCommMonoid β]

/-- What some of the samples amount to. -/
def tally (among : α → Bool) (amount : α → β) (samples : List α) : β :=
  ((samples.filter among).map amount).sum

@[simp] theorem tally_nil (among : α → Bool) (amount : α → β) : tally among amount [] = 0 := rfl

theorem tally_cons (among : α → Bool) (amount : α → β) (a : α) (rest : List α) :
    tally among amount (a :: rest) = (if among a then amount a else 0) + tally among amount rest := by
  unfold tally
  cases inside : among a <;> simp [inside]

theorem tally_concat (among : α → Bool) (amount : α → β) (samples : List α) (a : α) :
    tally among amount (samples ++ [a]) = tally among amount samples + if among a then amount a else 0 := by
  unfold tally
  cases inside : among a <;> simp [inside]

/-- The tally of a bucket with one more sample. -/
theorem tally_bucket_concat (bucket : α → Nat) (amount : α → β) (samples : List α) (a : α) (k : Nat) :
    tally (fun b => bucket b == k) amount (samples ++ [a]) =
      tally (fun b => bucket b == k) amount samples + if k = bucket a then amount a else 0 := by
  rw [tally_concat]
  congr 1
  by_cases own : k = bucket a
  · rw [if_pos (beq_iff_eq.mpr own.symm), if_pos own]
  · rw [if_neg (fun same => own (beq_iff_eq.mp same).symm), if_neg own]

theorem tally_congr {p q : α → Bool} {samples : List α} (amount : α → β)
    (same : ∀ a ∈ samples, p a = q a) : tally p amount samples = tally q amount samples := by
  rw [tally, tally, List.filter_congr same]

theorem tally_eq_zero {among : α → Bool} {samples : List α} (amount : α → β)
    (outside : ∀ a ∈ samples, among a = false) : tally among amount samples = 0 := by
  have none : samples.filter among = [] := by simpa using outside
  rw [tally, none]
  rfl

/-- Samples without an amount do not count. -/
theorem tally_filter (among counts : α → Bool) (amount : α → β) (samples : List α)
    (blank : ∀ a, counts a = false → amount a = 0) :
    tally among amount (samples.filter counts) = tally among amount samples := by
  induction samples with
  | nil => rfl
  | cons a rest ih =>
    cases counted : counts a with
    | true => rw [List.filter_cons_of_pos counted, tally_cons, tally_cons, ih]
    | false =>
      rw [List.filter_cons_of_neg (by simp [counted]), tally_cons, ih, blank a counted, ite_self, zero_add]

/-- Samples of two kinds that exclude each other. -/
theorem tally_or {p q : α → Bool} (amount : α → β) {samples : List α}
    (apart : ∀ a ∈ samples, p a = true → q a = false) :
    tally (fun a => p a || q a) amount samples = tally p amount samples + tally q amount samples := by
  induction samples with
  | nil => simp
  | cons a rest ih =>
    rw [tally_cons, tally_cons, tally_cons, ih fun b member => apart b (List.mem_cons_of_mem a member),
      add_add_add_comm]
    congr 1
    cases first : p a with
    | true => simp [apart a List.mem_cons_self first]
    | false => simp

/-- The tally of an amount read off another one. -/
theorem tally_hom {γ : Type*} [AddCommMonoid γ] (f : β →+ γ) (among : α → Bool) (amount : α → β)
    (samples : List α) : tally among (fun a => f (amount a)) samples = f (tally among amount samples) := by
  rw [tally, tally, map_list_sum, List.map_map]
  rfl

/-- The tallies of some of the buckets in a row sum up to the tally of their samples. -/
theorem tally_layout (p : Nat → Bool) (bucket : α → Nat) (amount : α → β) (samples : List α)
    (start n : Nat) :
    tally (fun e => p e.1) Prod.snd
        (layout 1 start n fun i => tally (fun a => bucket a == i) amount samples) =
      tally (fun a => p (bucket a) && decide (start ≤ bucket a ∧ bucket a < start + n)) amount samples := by
  induction n with
  | zero =>
    refine (tally_eq_zero amount fun a _ => ?_).symm
    simp only [Bool.and_eq_false_iff, decide_eq_false_iff_not]
    omega
  | succ n ih =>
    have last : (if p ((start + n) * 1) = true then tally (fun a => bucket a == start + n) amount samples else 0) =
        tally (fun a => p (bucket a) && bucket a == start + n) amount samples := by
      cases chosen : p (start + n) with
      | true =>
        rw [Nat.mul_one, if_pos chosen]
        refine tally_congr amount fun a _ => ?_
        by_cases own : bucket a = start + n
        · simp [own, chosen]
        · simp [own]
      | false =>
        rw [Nat.mul_one, if_neg (by simp [chosen])]
        refine (tally_eq_zero amount fun a _ => ?_).symm
        by_cases own : bucket a = start + n
        · simp [own, chosen]
        · simp [own]
    rw [layout_succ, tally_concat, ih, last, ← tally_or amount]
    · refine tally_congr amount fun a _ => ?_
      rw [← Bool.and_or_distrib_left]
      congr 1
      rw [Bool.eq_iff_iff]
      simp only [Bool.or_eq_true, decide_eq_true_eq, beq_iff_eq]
      omega
    · intro a _ inside
      simp only [Bool.and_eq_true, decide_eq_true_eq] at inside
      simp only [Bool.and_eq_false_iff, beq_eq_false_iff_ne]
      omega

/-- The sum over a row of buckets is the tally of all their samples. -/
theorem sum_layout (bucket : α → Nat) (amount : α → β) (samples : List α) (width start n : Nat) :
    ((layout width start n fun i => tally (fun a => bucket a == i) amount samples).map Prod.snd).sum =
      tally (fun a => decide (start ≤ bucket a ∧ bucket a < start + n)) amount samples := by
  have whole := tally_layout (fun _ => true) bucket amount samples start n
  simp only [Bool.true_and] at whole
  rw [← whole, tally, List.filter_true, layout, layout, List.map_map, List.map_map]
  rfl

/-! ## Exact rings -/

/-- The ring ends at the bucket `newest`, holds the tallies of its buckets and
leaves out no sample of the last `retain` buckets. -/
def Exact (bucket : α → Nat) (amount : α → β) (width retain newest : Nat) (samples : List α)
    (ring : List (Nat × β)) : Prop :=
  ∃ start n, 0 < n ∧ n ≤ retain ∧ start + n = newest + 1 ∧
    ring = layout width start n (fun i => tally (fun a => bucket a == i) amount samples) ∧
    ∀ a ∈ samples, bucket a ≤ newest ∧ (newest < bucket a + retain → start ≤ bucket a)

section Exact

variable {bucket : α → Nat} {amount : α → β} {width retain newest : Nat} {samples : List α}
  {ring : List (Nat × β)}

theorem exact_single (positive : 0 < retain) (a : α) :
    Exact bucket amount width retain (bucket a) [a] [(bucket a * width, amount a)] := by
  refine ⟨bucket a, 1, Nat.one_pos, positive, rfl, ?_, ?_⟩
  · simp [layout, tally]
  · simp

/-- Another sample, not behind the ring: the ring of the tallies again, cut where
nothing recent is lost. -/
theorem exact_concat {start next n : Nat} {a : α} (positive : 0 < n) (short : n ≤ retain)
    (forward : newest ≤ bucket a) (ends : next + n = bucket a + 1)
    (cut : next ≤ start ∨ next + retain ≤ bucket a + 1 ∨ newest + retain ≤ bucket a)
    (kept : ∀ b ∈ samples, bucket b ≤ newest ∧ (newest < bucket b + retain → start ≤ bucket b)) :
    Exact bucket amount width retain (bucket a) (samples ++ [a])
      (layout width next n fun i => tally (fun b => bucket b == i) amount (samples ++ [a])) := by
  refine ⟨next, n, positive, short, ends, rfl, ?_⟩
  intro b member
  rcases List.mem_append.mp member with old | new
  · obtain ⟨before, after⟩ := kept b old
    refine ⟨by omega, fun recent => ?_⟩
    rcases cut with cut | cut | cut
    · exact cut.trans (after (by omega))
    · omega
    · omega
  · rw [List.mem_singleton.mp new]
    exact ⟨Nat.le_refl _, fun _ => by omega⟩

/-- The ring without its empty part: buckets behind the newest hold nothing. -/
theorem tally_beyond (kept : ∀ b ∈ samples, bucket b ≤ newest) {i : Nat} (beyond : newest < i) :
    tally (fun b => bucket b == i) amount samples = 0 := by
  refine tally_eq_zero amount fun b member => ?_
  have := kept b member
  simp only [beq_eq_false_iff_ne]
  omega

/-- The sum over the last `n` buckets. -/
theorem Exact.window (exact : Exact bucket amount width retain newest samples ring) {n : Nat}
    (covered : n ≤ retain) :
    ((ring.reverse.take n).map Prod.snd).sum =
      tally (fun a => newest < bucket a + n) amount samples := by
  obtain ⟨start, length, positive, short, ends, rfl, kept⟩ := exact
  rw [take_reverse_layout, List.map_reverse, List.sum_reverse, sum_layout]
  refine tally_congr amount fun a member => ?_
  obtain ⟨before, after⟩ := kept a member
  rw [decide_eq_decide]
  omega

/-- The sum over some of the buckets. -/
theorem Exact.among (exact : Exact bucket amount 1 retain newest samples ring) (p : Nat → Bool) :
    tally (fun e => p e.1) Prod.snd ring =
      tally (fun a => p (bucket a) && decide (newest < bucket a + retain)) amount samples := by
  obtain ⟨start, length, positive, short, ends, rfl, kept⟩ := exact
  rw [tally_layout]
  refine tally_congr amount fun a member => ?_
  obtain ⟨before, after⟩ := kept a member
  congr 1
  rw [decide_eq_decide]
  omega

end Exact

end Sipmon.Lib.BucketRing
