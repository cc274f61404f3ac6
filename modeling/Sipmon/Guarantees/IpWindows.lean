import Mathlib.Algebra.Order.Monoid.Defs
import Sipmon.Lib.BucketRing
import Sipmon.Lib.History
import Sipmon.Source.IpStats

/-!
# The time windows of an IP

Packets and losses of an IP go into two rings of buckets, one per second and one
per minute. Both rings stay rows of consecutive buckets up to the newest one
seen, whatever the order of the timestamps: a late sample goes into its bucket
while that is retained, and into the oldest one otherwise. In time order no
sample is ever late, so the rings are exact and so is every window over them.
All counters are 64 bits wide: sums are sums modulo 2^64.
-/
namespace Sipmon.Guarantees.IpWindows
open Lib.BucketRing Source
open Lib.Run (history admitted_of_pairwise)

/-! ## Buckets add up -/

instance : Add Bucket where
  add a b :=
    { pktsTx := a.pktsTx + b.pktsTx, pktsRx := a.pktsRx + b.pktsRx
      lostTx := a.lostTx + b.lostTx, lostRx := a.lostRx + b.lostRx
      bytesTx := a.bytesTx + b.bytesTx, bytesRx := a.bytesRx + b.bytesRx }

instance : Zero Bucket := ⟨{}⟩

theorem add_eq (a b : Bucket) : a + b =
    { pktsTx := a.pktsTx + b.pktsTx, pktsRx := a.pktsRx + b.pktsRx
      lostTx := a.lostTx + b.lostTx, lostRx := a.lostRx + b.lostRx
      bytesTx := a.bytesTx + b.bytesTx, bytesRx := a.bytesRx + b.bytesRx } := rfl

theorem zero_eq : (0 : Bucket) = {} := rfl

instance : AddCommMonoid Bucket where
  add_assoc a b c := by simp only [add_eq, UInt64.add_assoc]
  zero_add a := by simp only [add_eq, zero_eq, UInt64.zero_add]
  add_zero a := by simp only [add_eq, zero_eq, UInt64.add_zero]
  add_comm a b := by
    rw [add_eq, add_eq]
    congr 1 <;> exact UInt64.add_comm _ _
  nsmul := nsmulRec

section Directions

variable (a b : Bucket) (dir : Dir)

theorem pktsOf_add : (a + b).pktsOf dir = a.pktsOf dir + b.pktsOf dir := by
  cases dir <;> rfl

theorem lostOf_add : (a + b).lostOf dir = a.lostOf dir + b.lostOf dir := by
  cases dir <;> rfl

theorem bytesOf_add : (a + b).bytesOf dir = a.bytesOf dir + b.bytesOf dir := by
  cases dir <;> rfl

end Directions

/-! ## Samples -/

/-- One call of `add_packets` or `add_lost`. -/
inductive Sample where
  | packets (tsUs count bytes : UInt64) (dir : Dir)
  | lost (tsUs lost : UInt64) (dir : Dir)
  deriving DecidableEq

namespace Sample

def tsUs : Sample → UInt64
  | packets ts _ _ _ => ts
  | lost ts _ _ => ts

/-- What the sample adds to a bucket. -/
def amount : Sample → Bucket
  | packets _ count bytes .tx => { pktsTx := count, bytesTx := bytes }
  | packets _ count bytes .rx => { pktsRx := count, bytesRx := bytes }
  | lost _ n .tx => { lostTx := n }
  | lost _ n .rx => { lostRx := n }

def counts : Sample → Bool
  | packets _ count bytes _ => !(count == 0 && bytes == 0)
  | lost _ n _ => !(n == 0)

theorem amount_of_blank (a : Sample) (blank : a.counts = false) : a.amount = 0 := by
  cases a with
  | packets ts count bytes dir =>
    obtain ⟨rfl, rfl⟩ : count = 0 ∧ bytes = 0 := by simpa [counts] using blank
    cases dir <;> rfl
  | lost ts n dir =>
    obtain rfl : n = 0 := by simpa [counts] using blank
    cases dir <;> rfl

end Sample

def observe (s : IpStats) : Sample → IpStats
  | .packets ts count bytes dir => s.addPackets ts count bytes dir
  | .lost ts n dir => s.addLost ts n dir

/-- The two rings of a row. -/
inductive Resolution where
  | second | minute
  deriving DecidableEq

namespace Resolution

def widthUs : Resolution → Nat
  | second => 1000000
  | minute => 60000000

def retain : Resolution → Nat
  | second => sec1Retain
  | minute => sec60Retain

def ring (s : IpStats) : Resolution → List (Nat × Bucket)
  | second => s.sec1
  | minute => s.sec60

/-- The number of the bucket of a sample. -/
def bucket (r : Resolution) (a : Sample) : Nat := a.tsUs.toNat / r.widthUs

theorem bucket_eq (r : Resolution) (a : Sample) : a.tsUs.toNat / r.widthUs = r.bucket a := rfl

theorem retain_pos (r : Resolution) : 0 < r.retain := by
  cases r <;> decide

end Resolution

/-- All-time totals of a row. -/
def totals (s : IpStats) : Bucket :=
  { pktsTx := s.pktsTx, pktsRx := s.pktsRx, lostTx := s.lostTx, lostRx := s.lostRx
    bytesTx := s.bytesTx, bytesRx := s.bytesRx }

/-! ## One sample -/

theorem observe_blank (s : IpStats) {a : Sample} (blank : a.counts = false) : observe s a = s := by
  cases a with
  | packets ts count bytes dir =>
    have none : count = 0 ∧ bytes = 0 := by simpa [Sample.counts] using blank
    exact if_pos none
  | lost ts n dir =>
    have none : n = 0 := by simpa [Sample.counts] using blank
    exact if_pos none

/-- A sample that counts goes into the totals and into both rings. -/
theorem observe_counted (s : IpStats) {a : Sample} (counted : a.counts = true) :
    totals (observe s a) = totals s + a.amount ∧
      ∀ r : Resolution, r.ring (observe s a) =
        bucketMut (r.ring s) a.tsUs r.widthUs r.retain (· + a.amount) := by
  cases a with
  | packets ts count bytes dir =>
    have some : ¬(count = 0 ∧ bytes = 0) := fun none => by simp [Sample.counts, none] at counted
    simp only [observe, IpStats.addPackets, if_neg some]
    constructor
    · cases dir <;> simp only [totals, IpStats.bump, Sample.amount, add_eq, UInt64.add_zero]
    · intro r
      cases dir <;> cases r <;> simp only [Resolution.ring, Resolution.widthUs, Resolution.retain, IpStats.bump,
        Sample.amount, Sample.tsUs, add_eq, UInt64.add_zero]
  | lost ts n dir =>
    have some : n ≠ 0 := by simpa [Sample.counts] using counted
    simp only [observe, IpStats.addLost, if_neg some]
    constructor
    · cases dir <;> simp only [totals, IpStats.bump, Sample.amount, add_eq, UInt64.add_zero]
    · intro r
      cases dir <;> cases r <;> simp only [Resolution.ring, Resolution.widthUs, Resolution.retain, IpStats.bump,
        Sample.amount, Sample.tsUs, add_eq, UInt64.add_zero]

theorem totals_observe (s : IpStats) (a : Sample) : totals (observe s a) = totals s + a.amount := by
  cases counted : a.counts with
  | false => rw [observe_blank s counted, a.amount_of_blank counted, add_zero]
  | true => exact (observe_counted s counted).1

/-! ## One ring -/

section Ring

variable {retain start n : Nat} {content : Nat → Bucket}

theorem ringTail_layout : ringTail (layout 1 start (n + 1) content) = start + n := by
  rw [ringTail, getLast?_layout, Nat.mul_one]
  rfl

theorem pad_pad {i near far : Nat} (inside : near ≤ far) (b : Bucket) :
    (if i < far then if i < near then b else 0 else 0) = if i < near then b else 0 := by
  by_cases old : i < near
  · rw [if_pos (Nat.lt_of_lt_of_le old inside)]
  · rw [if_neg old, ite_self]

/-- Advancing appends empty buckets and keeps the last `retain`. -/
theorem advanceRing_layout (gap : Nat) (short : n + 1 ≤ retain) :
    advanceRing retain gap (layout 1 start (n + 1) content) =
      (layout 1 start (n + 1 + gap) fun i => if i < start + (n + 1) then content i else 0).drop
        (n + 1 + gap - retain) := by
  induction gap generalizing start n content with
  | zero =>
    rw [advanceRing, Nat.add_zero, Nat.sub_eq_zero_of_le short, List.drop_zero]
    exact layout_congr fun i _ before => (if_pos before).symm
  | succ gap ih =>
    have grown : layout 1 start (n + 1) content ++ [(start + n + 1, ({} : Bucket))] =
        layout 1 start (n + 1 + 1) fun i => if i < start + (n + 1) then content i else 0 := by
      rw [← layout_pad]
      simp [layout, zero_eq, Nat.add_assoc]
    have more : n + 1 + (gap + 1) = n + 1 + gap + 1 := rfl
    rw [advanceRing, ringTail_layout, length_layout, grown]
    by_cases room : n + 1 < retain
    · rw [if_pos room, ih room, more, Nat.add_right_comm (n + 1) 1 gap]
      exact congrArg (List.drop _) (layout_congr fun i _ _ => pad_pad (by omega) (content i))
    · have cut : n + 1 + gap + 1 - retain = 1 + (n + 1 + gap - retain) := by omega
      rw [if_neg room, drop_layout, Nat.add_sub_cancel, ih short, more, cut, ← List.drop_drop,
        drop_layout 1 start (n + 1 + gap + 1) 1, Nat.add_sub_cancel]
      exact congrArg (List.drop _) (layout_congr fun i _ _ => pad_pad (by omega) (content i))

/-- The bucket a sample lands in: its own while that is retained, else the oldest. -/
def landing (oldest key : Nat) : Nat := if oldest ≤ key then key else oldest

theorem landing_index {key : Nat} (behind : key ≤ start + n) :
    (if ringTail (layout 1 start (n + 1) content) = key then
        (layout 1 start (n + 1) content).length - 1
      else ((layout 1 start (n + 1) content).findIdx? fun e => e.1 == key).getD 0) =
      landing start key - start := by
  rw [ringTail_layout, length_layout, findIdx?_layout, landing]
  by_cases retained : start ≤ key
  · rw [if_pos retained, if_pos (show start ≤ key ∧ key < start + (n + 1) by omega)]
    split
    · omega
    · rfl
  · rw [if_neg retained, if_neg (show ¬(start ≤ key ∧ key < start + (n + 1)) by omega), if_neg (by omega),
      Nat.sub_self]
    rfl

/-- An update of a ring: forward to the bucket of the sample, then into the bucket
it lands in. -/
theorem bucketMut_layout {widthUs key : Nat} {tsUs : UInt64} (own : tsUs.toNat / widthUs = key)
    (short : n + 1 ≤ retain) (update : Bucket → Bucket) :
    bucketMut (layout 1 start (n + 1) content) tsUs widthUs retain update =
      let newest := max (start + n) key
      let m := min (newest - start) (retain - 1)
      layout 1 (newest - m) (m + 1) fun i =>
        let present := if i < start + (n + 1) then content i else 0
        if i = landing (newest - m) key then update present else present := by
  have nonempty : (layout 1 start (n + 1) content).isEmpty = false := by simp [layout_cons]
  unfold bucketMut
  rw [own, nonempty, if_neg Bool.false_ne_true, ringTail_layout, advanceRing_layout _ short, drop_layout]
  dsimp only
  generalize last : min (max (start + n) key - start) (retain - 1) = m
  have first : start + (n + 1 + (key - (start + n)) - retain) = max (start + n) key - m := by omega
  have length : n + 1 + (key - (start + n)) - (n + 1 + (key - (start + n)) - retain) = m + 1 := by omega
  rw [first, length, landing_index (by omega), modify_layout]
  refine layout_congr fun i _ _ => ?_
  have place : max (start + n) key - m + (landing (max (start + n) key - m) key - (max (start + n) key - m)) =
      landing (max (start + n) key - m) key := by
    unfold landing
    split <;> omega
  rw [place]

end Ring

/-! ## Any order -/

/-- The samples that count. -/
def counted (past : List Sample) : List Sample := past.filter Sample.counts

namespace Resolution

/-- The newest bucket seen. -/
def newest (r : Resolution) (past : List Sample) : Nat := ((counted past).map r.bucket).foldl max 0

theorem newest_concat (r : Resolution) (past : List Sample) {a : Sample} (counts : a.counts = true) :
    r.newest (past ++ [a]) = max (r.newest past) (r.bucket a) := by
  simp [newest, counted, counts]

theorem newest_le (r : Resolution) {past : List Sample} {m : Nat}
    (below : ∀ a ∈ counted past, r.bucket a ≤ m) : r.newest past ≤ m := by
  have bounded : ∀ (keys : List Nat) (start : Nat), start ≤ m → (∀ k ∈ keys, k ≤ m) →
      keys.foldl max start ≤ m := by
    intro keys
    induction keys with
    | nil => exact fun start first _ => first
    | cons k rest ih =>
      intro start first each
      exact ih _ (Nat.max_le.mpr ⟨first, each k List.mem_cons_self⟩)
        fun other member => each other (List.mem_cons_of_mem k member)
  refine bounded _ 0 (Nat.zero_le m) ?_
  rintro k member
  obtain ⟨a, known, rfl⟩ := List.mem_map.mp member
  exact below a known

end Resolution

theorem counted_concat (past : List Sample) (a : Sample) :
    counted (past ++ [a]) = if a.counts then counted past ++ [a] else counted past := by
  unfold counted
  cases counts : a.counts <;> simp [counts]

/-- The ring is a row of consecutive buckets up to the newest one seen, if any. -/
def Consecutive (r : Resolution) (past : List Sample) (ring : List (Nat × Bucket)) : Prop :=
  ring.length ≤ r.retain ∧ (ring = [] ↔ counted past = []) ∧
    (ring ≠ [] → ∃ oldest, oldest + ring.length = r.newest past + 1 ∧
      ring.map Prod.fst = List.range' oldest ring.length)

/-- What the ring holds for a bucket. -/
def content (ring : List (Nat × Bucket)) (k : Nat) : Bucket := (ring.lookup k).getD 0

/-- The ring with one more sample of the bucket `key`: the sample is added to its
bucket where the ring holds it now, else to the oldest one; no other bucket of
the ring changes. -/
def Added (before after : List (Nat × Bucket)) (key : Nat) (amount : Bucket) : Prop :=
  ∃ oldest ∈ (after.head?.map Prod.fst),
    ∀ k ∈ after.map Prod.fst,
      content after k = content before k +
        if k = (if key ∈ after.map Prod.fst then key else oldest) then amount else 0

theorem content_layout (start n : Nat) (c : Nat → Bucket) (k : Nat) :
    content (layout 1 start n c) k = if start ≤ k ∧ k < start + n then c k else 0 := by
  rw [content, lookup_layout]
  split <;> rfl

theorem mem_keys_layout {start n k : Nat} {c : Nat → Bucket} :
    k ∈ (layout 1 start n c).map Prod.fst ↔ start ≤ k ∧ k < start + n := by
  rw [keys_layout]
  simp

/-- The shape of a ring after any samples. -/
def Shape (r : Resolution) (past : List Sample) (ring : List (Nat × Bucket)) : Prop :=
  (counted past = [] ∧ ring = []) ∨
    (counted past ≠ [] ∧ ∃ start n c, n + 1 ≤ r.retain ∧ start + n = r.newest past ∧
      ring = layout 1 start (n + 1) c)

theorem Shape.consecutive {r : Resolution} {past : List Sample} {ring : List (Nat × Bucket)}
    (shape : Shape r past ring) : Consecutive r past ring := by
  rcases shape with ⟨none, rfl⟩ | ⟨some, start, n, c, short, ends, rfl⟩
  · exact ⟨Nat.zero_le _, by simp [none], fun filled => absurd rfl filled⟩
  · refine ⟨by rwa [length_layout], ?_, fun _ => ⟨start, ?_, ?_⟩⟩
    · simp [some, layout_cons]
    · rw [length_layout, ← ends, Nat.add_assoc]
    · rw [keys_layout, length_layout]
      simp

section Step

variable {r : Resolution} {past : List Sample} {ring : List (Nat × Bucket)} {a : Sample}

theorem bucketMut_nil (r : Resolution) (a : Sample) :
    bucketMut [] a.tsUs r.widthUs r.retain (· + a.amount) = layout 1 (r.bucket a) 1 fun _ => a.amount := by
  simp only [bucketMut, List.isEmpty_nil, if_pos, ← zero_eq, zero_add]
  simp [layout, Resolution.bucket]

theorem Shape.bucketMut (shape : Shape r past ring) (counts : a.counts = true) :
    Shape r (past ++ [a]) (bucketMut ring a.tsUs r.widthUs r.retain (· + a.amount)) := by
  refine Or.inr ⟨by simp [counted_concat, counts], ?_⟩
  rw [r.newest_concat past counts]
  rcases shape with ⟨none, rfl⟩ | ⟨-, start, n, c, short, ends, rfl⟩
  · refine ⟨r.bucket a, 0, _, r.retain_pos, ?_, bucketMut_nil r a⟩
    simp [Resolution.newest, none]
  · rw [bucketMut_layout (r.bucket_eq a) short, ← ends]
    exact ⟨_, _, _, by omega, by omega, rfl⟩

theorem Shape.added (shape : Shape r past ring) :
    Added ring (Source.bucketMut ring a.tsUs r.widthUs r.retain (· + a.amount)) (r.bucket a) a.amount := by
  rcases shape with ⟨-, rfl⟩ | ⟨-, start, n, c, short, ends, rfl⟩
  · rw [bucketMut_nil]
    refine ⟨r.bucket a, by simp [layout], fun k member => ?_⟩
    have own : k = r.bucket a := by
      obtain ⟨after, before⟩ := mem_keys_layout.mp member
      omega
    subst own
    simp only [content_layout, if_pos member]
    simp [content]
  · rw [bucketMut_layout (r.bucket_eq a) short]
    dsimp only
    generalize last : min (max (start + n) (r.bucket a) - start) (r.retain - 1) = m
    generalize first : max (start + n) (r.bucket a) - m = oldest
    refine ⟨oldest, by simp [layout_cons], fun k member => ?_⟩
    obtain ⟨after, before⟩ := mem_keys_layout.mp member
    have retained : (oldest ≤ r.bucket a ∧ r.bucket a < oldest + (m + 1)) ↔ oldest ≤ r.bucket a := by omega
    have present : (start ≤ k ∧ k < start + (n + 1)) ↔ k < start + (n + 1) := by omega
    simp only [content_layout, mem_keys_layout, retained, present, if_pos (And.intro after before)]
    change (if k = landing oldest (r.bucket a) then _ else _) =
      _ + if k = landing oldest (r.bucket a) then a.amount else 0
    split
    · rfl
    · exact (add_zero _).symm

end Step

theorem shape_observe {r : Resolution} {past : List Sample} {s : IpStats} (shape : Shape r past (r.ring s))
    (a : Sample) : Shape r (past ++ [a]) (r.ring (observe s a)) := by
  cases counts : a.counts with
  | false =>
    have same : counted (past ++ [a]) = counted past := by simp [counted_concat, counts]
    rw [observe_blank s counts]
    unfold Shape Resolution.newest
    rw [same]
    exact shape
  | true =>
    rw [(observe_counted s counts).2]
    exact shape.bucketMut counts

theorem shape_run (r : Resolution) (ip : IpAddr) (samples : List Sample) :
    Shape r samples (r.ring (samples.foldl observe (.new ip))) := by
  refine history (I := fun past s => Shape r past (r.ring s)) (D := fun _ _ => True) ?_
    (fun past s a _ shape => shape_observe shape a) fun _ _ _ _ => trivial
  cases r <;> exact Or.inl ⟨rfl, rfl⟩

theorem totals_run (ip : IpAddr) (samples : List Sample) :
    totals (samples.foldl observe (.new ip)) = (samples.map Sample.amount).sum := by
  refine history (I := fun past s => totals s = (past.map Sample.amount).sum) (D := fun _ _ => True) rfl
    (fun past s a _ summed => ?_) fun _ _ _ _ => trivial
  rw [totals_observe, summed]
  simp

/-! ## In time order -/

/-- The ring is exact for the samples read, once there are any. -/
def Kept (r : Resolution) (past : List Sample) (ring : List (Nat × Bucket)) : Prop :=
  (counted past = [] ∧ ring = []) ∨
    Exact r.bucket Sample.amount 1 r.retain (r.newest past) (counted past) ring

section Ordered

variable {r : Resolution} {past : List Sample} {ring : List (Nat × Bucket)} {a : Sample}

/-- A sample that is not behind the newest bucket lands in its own. -/
theorem Kept.bucketMut (kept : Kept r past ring) (counts : a.counts = true)
    (ordered : ∀ b ∈ past, b.tsUs ≤ a.tsUs) :
    Kept r (past ++ [a]) (bucketMut ring a.tsUs r.widthUs r.retain (· + a.amount)) := by
  have forward : r.newest past ≤ r.bucket a := r.newest_le fun b member =>
    Nat.div_le_div_right (UInt64.le_iff_toNat_le.mp (ordered b (List.mem_filter.mp member).1))
  refine Or.inr ?_
  rw [r.newest_concat past counts, Nat.max_eq_right forward, counted_concat, if_pos counts]
  rcases kept with ⟨none, rfl⟩ | ⟨start, n, nonempty, short, ends, rfl, inside⟩
  · rw [none, bucketMut_nil]
    have single : Exact r.bucket Sample.amount 1 r.retain (r.bucket a) [a] [(r.bucket a * 1, a.amount)] :=
      exact_single r.retain_pos a
    simpa [layout] using single
  · obtain ⟨n, rfl⟩ := Nat.exists_eq_succ_of_ne_zero (Nat.pos_iff_ne_zero.mp nonempty)
    have newest : r.newest past = start + n := by omega
    rw [newest] at forward
    rw [newest] at inside
    rw [bucketMut_layout (r.bucket_eq a) short, Nat.max_eq_right forward]
    dsimp only
    generalize last : min (r.bucket a - start) (r.retain - 1) = m
    have lands : landing (r.bucket a - m) (r.bucket a) = r.bucket a := if_pos (Nat.sub_le _ m)
    have same : (layout 1 (r.bucket a - m) (m + 1) fun i =>
        if i = landing (r.bucket a - m) (r.bucket a) then
          (if i < start + (n + 1) then tally (fun b => r.bucket b == i) Sample.amount (counted past) else 0) +
            a.amount
        else
          if i < start + (n + 1) then tally (fun b => r.bucket b == i) Sample.amount (counted past) else 0) =
        layout 1 (r.bucket a - m) (m + 1) fun i =>
          tally (fun b => r.bucket b == i) Sample.amount (counted past ++ [a]) := by
      refine layout_congr fun i _ _ => ?_
      have present : (if i < start + (n + 1) then
          tally (fun b => r.bucket b == i) Sample.amount (counted past) else 0) =
          tally (fun b => r.bucket b == i) Sample.amount (counted past) := by
        split
        · rfl
        · exact (tally_beyond (fun b member => (inside b member).1) (by omega)).symm
      rw [present, lands, tally_bucket_concat]
      split
      · rfl
      · exact (add_zero _).symm
    rw [same]
    exact exact_concat (Nat.succ_pos m) (by omega) forward (by omega) (by omega) inside

theorem kept_observe {s : IpStats} (kept : Kept r past (r.ring s))
    (ordered : ∀ b ∈ past, b.tsUs ≤ a.tsUs) : Kept r (past ++ [a]) (r.ring (observe s a)) := by
  cases counts : a.counts with
  | false =>
    have same : counted (past ++ [a]) = counted past := by simp [counted_concat, counts]
    rw [observe_blank s counts]
    unfold Kept Resolution.newest
    rw [same]
    exact kept
  | true =>
    rw [(observe_counted s counts).2]
    exact kept.bucketMut counts ordered

end Ordered

theorem kept_run (r : Resolution) (ip : IpAddr) {samples : List Sample}
    (ordered : samples.Pairwise fun a b => a.tsUs ≤ b.tsUs) :
    Kept r samples (r.ring (samples.foldl observe (.new ip))) := by
  refine history (I := fun past s => Kept r past (r.ring s)) ?_
    (fun past s a before kept => kept_observe kept before) (admitted_of_pairwise ordered)
  cases r <;> exact Or.inl ⟨rfl, rfl⟩

/-- The samples of the last `n` buckets. -/
def lastBuckets (r : Resolution) (n : Nat) (samples : List Sample) : List Sample :=
  samples.filter fun a => r.newest samples < r.bucket a + n

/-- The samples of a window; 0 is all-time. -/
def recent (windowSecs : Nat) (samples : List Sample) : List Sample :=
  if windowSecs = 0 then samples
  else if windowSecs ≤ 600 then lastBuckets .second windowSecs samples
  else lastBuckets .minute ((windowSecs + 59) / 60) samples

/-- The sum over the last `n` buckets of the ring. -/
theorem Kept.window {r : Resolution} {past : List Sample} {ring : List (Nat × Bucket)}
    (kept : Kept r past ring) {n : Nat} (covered : n ≤ r.retain) :
    ((ring.reverse.take n).map Prod.snd).sum = ((lastBuckets r n past).map Sample.amount).sum := by
  change _ = tally (fun a => r.newest past < r.bucket a + n) Sample.amount past
  rw [← tally_filter _ Sample.counts Sample.amount past Sample.amount_of_blank]
  rcases kept with ⟨none, rfl⟩ | exact
  · change _ = tally _ _ (counted past)
    rw [none]
    simp
  · exact exact.window covered

theorem sumRing_eq (ring : List (Nat × Bucket)) (n : Nat) (dir : Dir) :
    IpStats.sumRing ring n dir =
      (((ring.reverse.take n).map Prod.snd).sum.pktsOf dir,
        ((ring.reverse.take n).map Prod.snd).sum.lostOf dir) := by
  have folded : ∀ (l : List (Nat × Bucket)) (sum : UInt64 × UInt64),
      l.foldl (fun sum e => (sum.1 + e.2.pktsOf dir, sum.2 + e.2.lostOf dir)) sum =
        (sum.1 + (l.map Prod.snd).sum.pktsOf dir, sum.2 + (l.map Prod.snd).sum.lostOf dir) := by
    intro l
    induction l with
    | nil =>
      intro sum
      have nothing : (0 : Bucket).pktsOf dir = 0 ∧ (0 : Bucket).lostOf dir = 0 := by cases dir <;> exact ⟨rfl, rfl⟩
      rw [List.foldl_nil, List.map_nil, List.sum_nil, nothing.1, nothing.2, UInt64.add_zero, UInt64.add_zero]
    | cons e rest ih =>
      intro sum
      simp only [List.foldl_cons, List.map_cons, List.sum_cons, ih, pktsOf_add, lostOf_add, UInt64.add_assoc]
  rw [IpStats.sumRing, folded, UInt64.zero_add, UInt64.zero_add]

theorem sumBytes_eq (l : List (Nat × Bucket)) (dir : Dir) :
    l.foldl (fun bytes e => bytes + e.2.bytesOf dir) 0 = (l.map Prod.snd).sum.bytesOf dir := by
  have folded : ∀ (l : List (Nat × Bucket)) (bytes : UInt64),
      l.foldl (fun bytes e => bytes + e.2.bytesOf dir) bytes = bytes + (l.map Prod.snd).sum.bytesOf dir := by
    intro l
    induction l with
    | nil =>
      intro bytes
      have nothing : (0 : Bucket).bytesOf dir = 0 := by cases dir <;> rfl
      rw [List.foldl_nil, List.map_nil, List.sum_nil, nothing, UInt64.add_zero]
    | cons e rest ih =>
      intro bytes
      simp only [List.foldl_cons, List.map_cons, List.sum_cons, ih, bytesOf_add, UInt64.add_assoc]
  rw [folded, UInt64.zero_add]

/-- One part of the samples of a list, summed exactly. -/
def exactSum (part : Bucket → UInt64) (samples : List Sample) : Nat :=
  (samples.map fun a => (part a.amount).toNat).sum

/-- The counters hold the exact sums modulo 2^64. -/
theorem part_sum (part : Bucket → UInt64) (zero : part 0 = 0)
    (add : ∀ a b, part (a + b) = part a + part b) (samples : List Sample) :
    part (samples.map Sample.amount).sum = .ofNat (exactSum part samples) := by
  induction samples with
  | nil => exact zero
  | cons a rest ih =>
    rw [exactSum, List.map_cons, List.map_cons, List.sum_cons, List.sum_cons, add, ih, UInt64.ofNat_add,
      UInt64.ofNat_toNat]
    rfl

section Parts

variable (samples : List Sample) (dir : Dir)

theorem packets_sum : (samples.map Sample.amount).sum.pktsOf dir =
    .ofNat (exactSum (·.pktsOf dir) samples) := by
  have zero : (0 : Bucket).pktsOf dir = 0 := by cases dir <;> rfl
  exact part_sum (·.pktsOf dir) zero (pktsOf_add · · dir) samples

theorem lost_sum : (samples.map Sample.amount).sum.lostOf dir =
    .ofNat (exactSum (·.lostOf dir) samples) := by
  have zero : (0 : Bucket).lostOf dir = 0 := by cases dir <;> rfl
  exact part_sum (·.lostOf dir) zero (lostOf_add · · dir) samples

theorem bytes_sum : (samples.map Sample.amount).sum.bytesOf dir =
    .ofNat (exactSum (·.bytesOf dir) samples) := by
  have zero : (0 : Bucket).bytesOf dir = 0 := by cases dir <;> rfl
  exact part_sum (·.bytesOf dir) zero (bytesOf_add · · dir) samples

end Parts

/-- A window up to an hour, in time order, and its bytes. -/
theorem window_recent (ip : IpAddr) {samples : List Sample}
    (ordered : samples.Pairwise fun a b => a.tsUs ≤ b.tsUs) {windowSecs : Nat} (hour : windowSecs ≤ 3600)
    (dir : Dir) :
    (samples.foldl observe (.new ip)).window windowSecs dir =
        (((recent windowSecs samples).map Sample.amount).sum.pktsOf dir,
          ((recent windowSecs samples).map Sample.amount).sum.lostOf dir) ∧
      (samples.foldl observe (.new ip)).bytesIn windowSecs dir =
        ((recent windowSecs samples).map Sample.amount).sum.bytesOf dir := by
  have summed := totals_run ip samples
  have second := kept_run .second ip ordered
  have minute := kept_run .minute ip ordered
  generalize samples.foldl observe (.new ip) = s at summed second minute ⊢
  unfold recent IpStats.window IpStats.bytesIn
  split
  · rw [← summed]
    cases dir <;> exact ⟨rfl, rfl⟩
  · by_cases short : windowSecs ≤ sec1Retain
    · have sum : ((s.sec1.reverse.take windowSecs).map Prod.snd).sum = _ := second.window short
      rw [if_pos short, if_pos short, if_pos (show windowSecs ≤ 600 from short)]
      dsimp only
      rw [sumRing_eq, sumBytes_eq, sum]
      exact ⟨rfl, rfl⟩
    · have covered : (windowSecs + 59) / 60 ≤ Resolution.minute.retain := by
        change _ ≤ 60
        omega
      have sum : ((s.sec60.reverse.take ((windowSecs + 59) / 60)).map Prod.snd).sum = _ :=
        minute.window covered
      rw [if_neg short, if_neg short, if_neg (show ¬windowSecs ≤ 600 from short)]
      dsimp only
      rw [sumRing_eq, sumBytes_eq, sum]
      exact ⟨rfl, rfl⟩

/-- Whatever the samples of an IP and their order, both its rings are consecutive
up to the newest bucket, the next sample goes where `Added` says, and the totals
count all samples; in time order every window of the UI counts exactly the samples
of its buckets. The 64-bit counters hold these sums modulo 2^64. -/
theorem ip_windows_exact (ip : IpAddr) (samples : List Sample) :
    (∀ r : Resolution,
      Consecutive r samples (r.ring (samples.foldl observe (.new ip))) ∧
        ∀ a, a.counts = true →
          Added (r.ring (samples.foldl observe (.new ip)))
            (r.ring ((samples ++ [a]).foldl observe (.new ip))) (r.bucket a) a.amount) ∧
      (∀ dir,
        (samples.foldl observe (.new ip)).pktsTotal dir = .ofNat (exactSum (·.pktsOf dir) samples) ∧
          (samples.foldl observe (.new ip)).lostTotal dir = .ofNat (exactSum (·.lostOf dir) samples) ∧
          (samples.foldl observe (.new ip)).bytesTotal dir = .ofNat (exactSum (·.bytesOf dir) samples)) ∧
      ((samples.Pairwise fun a b => a.tsUs ≤ b.tsUs) → ∀ windowSecs ∈ windows.map Prod.fst, ∀ dir,
        (samples.foldl observe (.new ip)).window windowSecs dir =
            (.ofNat (exactSum (·.pktsOf dir) (recent windowSecs samples)),
              .ofNat (exactSum (·.lostOf dir) (recent windowSecs samples))) ∧
          (samples.foldl observe (.new ip)).bytesIn windowSecs dir =
            .ofNat (exactSum (·.bytesOf dir) (recent windowSecs samples))) := by
  refine ⟨fun r => ⟨(shape_run r ip samples).consecutive, fun a counts => ?_⟩, fun dir => ?_,
    fun ordered windowSecs listed dir => ?_⟩
  · rw [List.foldl_append, List.foldl_cons, List.foldl_nil, (observe_counted _ counts).2]
    exact (shape_run r ip samples).added
  · have summed := totals_run ip samples
    rw [← packets_sum, ← lost_sum, ← bytes_sum, ← summed]
    cases dir <;> exact ⟨rfl, rfl, rfl⟩
  · have hour : ∀ windowSecs ∈ windows.map Prod.fst, windowSecs ≤ 3600 := by decide
    rw [← packets_sum, ← lost_sum, ← bytes_sum]
    exact window_recent ip ordered (hour windowSecs listed) dir

/-- Two packets and a loss, the loss in the next second: the last second has only
the loss, the last ten have all of it. -/
theorem ip_windows_two_seconds :
    let s := [Sample.packets 1000000 1 160 .tx, .packets 1500000 1 160 .tx, .lost 2000000 1 .tx].foldl
      observe (.new (.v4 ⟨10, 1, 2, 3⟩))
    s.window 1 .tx = (0, 1) ∧ s.window 10 .tx = (2, 1) ∧ s.bytesIn 10 .tx = 320 := by
  have exact := (ip_windows_exact (.v4 ⟨10, 1, 2, 3⟩)
    [.packets 1000000 1 160 .tx, .packets 1500000 1 160 .tx, .lost 2000000 1 .tx]).2.2
    (by simp [Sample.tsUs, UInt64.le_iff_toNat_le])
  have ten := exact 10 (by decide) .tx
  exact ⟨(exact 1 (by decide) .tx).1, ten.1, ten.2⟩

end Sipmon.Guarantees.IpWindows
