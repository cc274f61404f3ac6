import Mathlib.Algebra.Group.Prod
import Sipmon.Guarantees.SignalingSeries
import Sipmon.Lib.BucketRing
import Sipmon.Lib.History

/-!
# The answer-rate rings over whole runs

A ring that is fed in time order should hold one bucket per width up to the
newest, at most 60 of them, and everything bumped into the last 60 buckets. A gap
is filled with empty buckets only while the ring has room for them: a bump that
jumps ahead of a ring too full for the gap leaves a hole behind it. Without such a
jump the ring is exact after every bump.
-/
namespace Sipmon.Guarantees.AnswerRings
open Lib.BucketRing Source SignalingSeries
open Lib.Run (Along history_iff admitted_of_pairwise)

/-- One call of `ring_bump`. -/
structure Bump where
  tsUs : UInt64
  inv : Nat
  ans : Nat

namespace Bump

def counts (b : Bump) : Bool := !(b.inv == 0 && b.ans == 0)
def bucket (width : Nat) (b : Bump) : Nat := b.tsUs.toNat / width
def amount (b : Bump) : Nat × Nat := (b.inv, b.ans)

theorem counts_iff (b : Bump) : b.counts = true ↔ ¬(b.inv = 0 ∧ b.ans = 0) := by
  simp only [counts, Bool.not_eq_true', Bool.and_eq_false_iff, beq_eq_false_iff_ne]
  omega

theorem amount_of_blank {b : Bump} (blank : b.counts = false) : b.amount = 0 := by
  have both : b.inv = 0 ∧ b.ans = 0 := by simpa [counts] using blank
  rw [amount, both.1, both.2]
  rfl

end Bump

def bump (width : Nat) (ring : List (Nat × Nat × Nat)) (b : Bump) : List (Nat × Nat × Nat) :=
  ringBump ring width b.tsUs b.inv b.ans

/-- The last bump that added anything. -/
def latest (past : List Bump) : Option Bump := (past.filter Bump.counts).getLast?

theorem latest_concat (past : List Bump) (b : Bump) :
    latest (past ++ [b]) = if b.counts then some b else latest past := by
  unfold latest
  cases counted : b.counts <;> simp [counted]

/-- The ring is one bucket per width up to the newest, at most 60 of them, and
its totals are the bumps of the last 60 buckets. -/
def Complete (width : Nat) (past : List Bump) (ring : List (Nat × Nat × Nat)) : Prop :=
  match latest past with
  | none => ring = []
  | some last =>
    ring ≠ [] ∧ ring.length ≤ seriesRetain ∧
      (∃ start, start + ring.length = last.bucket width + 1 ∧ Gapless width start ring) ∧
      totals ring =
        tally (fun b => last.bucket width < b.bucket width + seriesRetain) Bump.amount past

/-- The ring has room for the buckets up to the bump, with at most the oldest one
going, or is left behind as a whole. -/
def Fits (width : Nat) (ring : List (Nat × Nat × Nat)) (b : Bump) : Prop :=
  b.counts = true → ∀ tail ∈ ring.getLast?,
    ring.length + (b.bucket width - tail.1 / width) ≤ seriesRetain + 1 ∨
      seriesRetain < b.bucket width - tail.1 / width

/-! ## One bump -/

theorem bump_blank (width : Nat) (ring : List (Nat × Nat × Nat)) {b : Bump} (blank : b.counts = false) :
    bump width ring b = ring := by
  have both : b.inv = 0 ∧ b.ans = 0 := by simpa [Bump.counts] using blank
  rw [bump, ringBump, if_pos both]

theorem bump_empty (width : Nat) {b : Bump} (counted : b.counts = true) :
    bump width [] b = [(b.bucket width * width, b.amount)] := by
  rw [bump, ringBump, if_neg (b.counts_iff.mp counted)]
  rfl

section Layout

variable {width start n : Nat} {content : Nat → Nat × Nat} {b : Bump}

/-- What a bump makes of a ring without gaps: a merge, a restart, or the gap
filled as far as there is room. -/
theorem bump_layout (positive : 0 < width) (counted : b.counts = true) {gap : Nat}
    (ahead : b.bucket width = start + n + gap) :
    bump width (layout width start (n + 1) content) b =
      if gap = 0 then
        layout width start (n + 1) fun k => if k = start + n then content k + b.amount else content k
      else if seriesRetain < gap then [(b.bucket width * width, b.amount)]
      else
        let room := min (gap - 1) (seriesRetain - (n + 1))
        let gone := n + 1 + room + 1 - seriesRetain
        layout width (start + gone) (n + 1 + room - gone)
            (fun i => if i < start + (n + 1) then content i else 0) ++
          [(b.bucket width * width, b.amount)] := by
  unfold bump ringBump
  rw [if_neg (b.counts_iff.mp counted), getLast?_layout]
  dsimp only
  have key : b.tsUs.toNat / width = b.bucket width := rfl
  rw [key, ahead]
  cases gap with
  | zero =>
    rw [Nat.add_zero, if_pos rfl, if_pos rfl, length_layout, Nat.add_sub_cancel]
    exact modify_layout width start (n + 1) n content (· + b.amount)
  | succ gap =>
    have behind : (start + n) * width < (start + n + (gap + 1)) * width :=
      Nat.mul_lt_mul_of_pos_right (by omega) positive
    have far : width * seriesRetain < (start + n + (gap + 1)) * width - (start + n) * width ↔
        seriesRetain < gap + 1 := by
      rw [← Nat.sub_mul, Nat.add_sub_cancel_left, Nat.mul_comm]
      exact Nat.mul_lt_mul_right positive
    have next : (start + n) * width + width = (start + (n + 1)) * width := (Nat.succ_mul _ width).symm
    have same : start + n + (gap + 1) = start + (n + 1) + gap := by omega
    rw [if_neg (Nat.ne_of_gt behind), if_pos behind, if_neg (Nat.succ_ne_zero gap)]
    by_cases restart : seriesRetain < gap + 1
    · rw [if_pos restart, if_pos (far.mpr restart)]
      rfl
    · have padded := layout_pad width start (n + 1) (min gap (seriesRetain - (n + 1))) content
      rw [if_neg restart, if_neg (fun left => restart (far.mp left)), next, same,
        fillGaps_min positive gap (start + (n + 1)) seriesRetain _ (by omega), length_layout]
      change ((layout width start (n + 1) content ++
        layout width (start + (n + 1)) (min gap (seriesRetain - (n + 1))) fun _ => 0).drop _) ++ _ = _
      rw [padded, drop_layout, List.length_append, length_layout]
      simp only [blanks, List.length_map, List.length_range', Nat.add_sub_cancel]
      rfl

/-- In a ring without gaps the last bucket follows the others. -/
theorem gapless_next {first m key : Nat} {c : Nat → Nat × Nat} {value : Nat × Nat}
    (gapless : Gapless width first (layout width start (m + 1) c ++ [(key, value)])) :
    key = (start + m + 1) * width := by
  have last : key = (first + (m + 1)) * width := by simpa using gapless_back gapless
  have front : start * width = first * width := by
    have head := congrArg (fun l => l[0]?) gapless
    simpa [layout_cons, List.range'_succ] using head
  rw [last, Nat.add_mul, ← front, ← Nat.add_mul, Nat.add_assoc]

/-- A jump beyond the room of the ring leaves a hole. -/
theorem not_gapless_of_jump (positive : 0 < width) (counted : b.counts = true) {gap first : Nat}
    (ahead : b.bucket width = start + n + gap) (capped : n + 1 ≤ seriesRetain)
    (full : seriesRetain + 1 < n + 1 + gap) (near : gap ≤ seriesRetain) :
    ¬Gapless width first (bump width (layout width start (n + 1) content) b) := by
  unfold seriesRetain at capped full near
  rw [bump_layout positive counted ahead, if_neg (by omega), if_neg (by unfold seriesRetain; omega)]
  have room : min (gap - 1) (seriesRetain - (n + 1)) = 59 - n := by
    unfold seriesRetain
    omega
  have gone : n + 1 + (59 - n) + 1 - seriesRetain = 1 := by
    unfold seriesRetain
    omega
  have left : n + 1 + (59 - n) - 1 = 58 + 1 := by omega
  dsimp only
  rw [room, gone, left, ahead]
  intro gapless
  have hole := Nat.eq_of_mul_eq_mul_right positive (gapless_next gapless)
  omega

end Layout

/-! ## Runs -/

/-- The ring holds the tallies of all bumps, bucket by bucket. -/
def Held (width : Nat) (past : List Bump) (ring : List (Nat × Nat × Nat)) : Prop :=
  match latest past with
  | none => ring = []
  | some last =>
    Exact (Bump.bucket width) Bump.amount width seriesRetain (last.bucket width)
      (past.filter Bump.counts) ring

theorem totals_eq_sum (ring : List (Nat × Nat × Nat)) : totals ring = (ring.map Prod.snd).sum := by
  induction ring with
  | nil => rfl
  | cons e rest ih =>
    rw [List.map_cons, List.sum_cons, ← ih]
    simp only [totals, List.map_cons, List.sum_cons]
    rfl

theorem Held.complete {width : Nat} {past : List Bump} {ring : List (Nat × Nat × Nat)}
    (held : Held width past ring) : Complete width past ring := by
  unfold Held at held
  unfold Complete
  split at held
  · exact held
  · next last _ =>
    have window := held.window (Nat.le_refl seriesRetain)
    obtain ⟨start, n, positive, short, ends, rfl, -⟩ := held
    refine ⟨?_, ?_, ⟨start, ?_, ?_⟩, ?_⟩
    · exact List.ne_nil_of_length_pos (by rwa [length_layout])
    · rwa [length_layout]
    · rwa [length_layout]
    · rw [Gapless, keys_layout, length_layout]
    · rw [totals_eq_sum, ← tally_filter _ Bump.counts Bump.amount past fun b => Bump.amount_of_blank,
        ← window, take_reverse_layout, Nat.sub_eq_zero_of_le short, Nat.add_zero, Nat.sub_zero,
        List.map_reverse, List.sum_reverse]

section Step

variable {width : Nat} {past : List Bump} {ring : List (Nat × Nat × Nat)} {b : Bump}

/-- The last bump of the past, and where the next one comes behind it. -/
theorem ahead_of_latest (width : Nat) {last : Bump} (found : latest past = some last)
    (ordered : ∀ c ∈ past, c.tsUs ≤ b.tsUs) : ∃ gap, b.bucket width = last.bucket width + gap :=
  Nat.exists_eq_add_of_le (Nat.div_le_div_right
    (UInt64.le_iff_toNat_le.mp (ordered last (List.mem_filter.mp (List.mem_of_getLast? found)).1)))

theorem fits_layout {start n : Nat} {content : Nat → Nat × Nat} (positive : 0 < width)
    (counted : b.counts = true) {gap : Nat} (ahead : b.bucket width = start + n + gap) :
    Fits width (layout width start (n + 1) content) b ↔
      n + 1 + gap ≤ seriesRetain + 1 ∨ seriesRetain < gap := by
  have tail : (start + n) * width / width = start + n := Nat.mul_div_cancel _ positive
  simp [Fits, counted, getLast?_layout, tail, ahead]

/-- A bump that fits makes the ring of the tallies with it. -/
theorem bump_tally {start n : Nat} (positive : 0 < width) (counted : b.counts = true) {gap : Nat}
    (ahead : b.bucket width = start + n + gap) (capped : n + 1 ≤ seriesRetain)
    (fits : n + 1 + gap ≤ seriesRetain + 1 ∨ seriesRetain < gap)
    (kept : ∀ c ∈ past, c.bucket width ≤ start + n) :
    ∃ next m, 0 < m ∧ m ≤ seriesRetain ∧ next + m = b.bucket width + 1 ∧
      (next ≤ start ∨ next + seriesRetain ≤ b.bucket width + 1 ∨
        start + n + seriesRetain ≤ b.bucket width) ∧
      bump width
          (layout width start (n + 1) fun k => tally (fun c => Bump.bucket width c == k) Bump.amount past) b =
        layout width next m fun k =>
          tally (fun c => Bump.bucket width c == k) Bump.amount (past ++ [b]) := by
  have beyond {k : Nat} (after : start + n < k) :
      tally (fun c => Bump.bucket width c == k) Bump.amount past = 0 := tally_beyond kept after
  simp only [tally_bucket_concat]
  rw [bump_layout positive counted ahead]
  by_cases merge : gap = 0
  · subst merge
    refine ⟨start, n + 1, Nat.succ_pos n, capped, by omega, Or.inl (Nat.le_refl start), ?_⟩
    rw [if_pos rfl]
    refine layout_congr fun k _ _ => ?_
    rw [ahead, Nat.add_zero]
    split
    · rfl
    · rw [add_zero]
  · rw [if_neg merge]
    by_cases restart : seriesRetain < gap
    · refine ⟨b.bucket width, 1, Nat.one_pos, by decide, rfl, Or.inr (Or.inr (by omega)), ?_⟩
      have fresh := beyond (k := b.bucket width) (by omega)
      rw [if_pos restart]
      simp [layout, fresh]
    · rw [if_neg restart]
      have room : min (gap - 1) (seriesRetain - (n + 1)) = gap - 1 := by omega
      dsimp only
      rw [room]
      generalize gone : n + 1 + (gap - 1) + 1 - seriesRetain = d
      have ends : start + d + (n + 1 + (gap - 1) - d) = b.bucket width := by omega
      refine ⟨start + d, n + 1 + (gap - 1) - d + 1, Nat.succ_pos _, by omega, by omega, by omega, ?_⟩
      rw [layout_succ, ends, if_pos rfl, beyond (by omega), zero_add]
      refine congrArg (· ++ _) (layout_congr fun k _ before => ?_)
      have other : k ≠ b.bucket width := by omega
      rw [if_neg other, add_zero]
      split
      · rfl
      · exact (beyond (by omega)).symm

/-- A bump that fits keeps the ring exact. -/
theorem Held.bump (positive : 0 < width) (held : Held width past ring)
    (ordered : ∀ c ∈ past, c.tsUs ≤ b.tsUs) (fits : Fits width ring b) :
    Held width (past ++ [b]) (bump width ring b) := by
  unfold Held at held ⊢
  rw [latest_concat, List.filter_append]
  cases counted : b.counts with
  | false =>
    rw [bump_blank width ring counted]
    simpa [counted] using held
  | true =>
    rw [if_pos rfl, List.filter_singleton, counted]
    cases found : latest past with
    | none =>
      rw [found] at held
      have nothing : past.filter Bump.counts = [] := List.getLast?_eq_none_iff.mp found
      rw [held, nothing, bump_empty width counted]
      exact exact_single (by decide) b
    | some last =>
      rw [found] at held
      obtain ⟨start, n, nonempty, capped, ends, rfl, kept⟩ := held
      obtain ⟨n, rfl⟩ := Nat.exists_eq_succ_of_ne_zero (Nat.pos_iff_ne_zero.mp nonempty)
      obtain ⟨gap, ahead⟩ := ahead_of_latest width found ordered
      have newest : last.bucket width = start + n := by omega
      rw [newest] at ahead kept
      have fits := (fits_layout positive counted ahead).mp fits
      obtain ⟨next, m, some, short, last, cut, same⟩ :=
        bump_tally positive counted ahead capped fits fun c member => (kept c member).1
      rw [same]
      exact exact_concat some short (by omega) last cut kept

/-- A bump that does not fit is seen. -/
theorem Held.fits_of_complete (positive : 0 < width) (held : Held width past ring)
    (ordered : ∀ c ∈ past, c.tsUs ≤ b.tsUs)
    (complete : Complete width (past ++ [b]) (AnswerRings.bump width ring b)) : Fits width ring b := by
  intro counted
  unfold Held at held
  unfold Complete at complete
  rw [latest_concat, if_pos counted] at complete
  obtain ⟨-, -, ⟨first, -, gapless⟩, -⟩ := complete
  cases found : latest past with
  | none =>
    rw [found] at held
    rw [held]
    simp
  | some last =>
    rw [found] at held
    obtain ⟨start, n, nonempty, capped, ends, rfl, -⟩ := held
    obtain ⟨n, rfl⟩ := Nat.exists_eq_succ_of_ne_zero (Nat.pos_iff_ne_zero.mp nonempty)
    obtain ⟨gap, ahead⟩ := ahead_of_latest width found ordered
    have newest : last.bucket width = start + n := by omega
    rw [newest] at ahead
    refine (fits_layout positive counted ahead).mpr ?_ counted
    by_contra misfit
    exact not_gapless_of_jump positive counted ahead capped (by omega) (by omega) gapless

end Step

/-- The ring of every run in time order is complete after every bump exactly if
every bump fits. -/
theorem rings_complete_iff {width : Nat} (positive : 0 < width) {bumps : List Bump}
    (ordered : bumps.Pairwise fun a b => a.tsUs ≤ b.tsUs) :
    (∀ before, before <+: bumps → Complete width before (before.foldl (bump width) [])) ↔
      Along (bump width) (Fits width) [] bumps :=
  history_iff (I := Held width) rfl (fun _ _ => Held.complete)
    (fun _ _ _ sorted fits held => held.bump positive sorted fits)
    (fun _ _ _ sorted held complete => held.fits_of_complete positive sorted complete)
    (admitted_of_pairwise ordered)

/-- A bump in the fourth minute after the first: two empty buckets in between. -/
theorem rings_complete_gap :
    Complete m1Us [Bump.mk 0 1 0, Bump.mk 180000000 1 1]
      ([Bump.mk 0 1 0, Bump.mk 180000000 1 1].foldl (bump m1Us) []) := by
  have ring : bump m1Us [] (Bump.mk 0 1 0) = layout m1Us 0 1 fun _ => (1, 0) := by decide
  have ahead : Bump.bucket m1Us (Bump.mk 180000000 1 1) = 0 + 0 + 3 := by decide
  have along : Along (bump m1Us) (Fits m1Us) [] [Bump.mk 0 1 0, Bump.mk 180000000 1 1] := by
    refine ⟨fun _ tail empty => absurd empty (by simp), ?_, trivial⟩
    rw [ring]
    exact (fits_layout (by decide) (by decide) ahead).mpr (Or.inl (by decide))
  exact (rings_complete_iff (by decide) (by simp [UInt64.le_iff_toNat_le])).mpr along _
    (List.prefix_refl _)

/-- Bumps in the minutes 0, 59 and 61: the full ring has no bucket for the minute 60. -/
theorem ring_hole :
    let bumps := [Bump.mk 0 1 0, Bump.mk 3540000000 1 0, Bump.mk 3660000000 1 0]
    bumps.Pairwise (fun a b => a.tsUs ≤ b.tsUs) ∧
      ¬Complete m1Us bumps (bumps.foldl (bump m1Us) []) := by
  refine ⟨by simp [UInt64.le_iff_toNat_le], ?_⟩
  rintro ⟨-, -, ⟨start, -, gapless⟩, -⟩
  have before := congrArg (fun keys => keys[58]?) gapless
  have after := congrArg (fun keys => keys[59]?) gapless
  generalize ring_eq : ([Bump.mk 0 1 0, Bump.mk 3540000000 1 0, Bump.mk 3660000000 1 0].foldl (bump m1Us) []) =
    ring at before after
  have long : ring.length = 60 := by rw [← ring_eq]; decide
  have left : (ring.map Prod.fst)[58]? = some (59 * m1Us) := by rw [← ring_eq]; decide
  have right : (ring.map Prod.fst)[59]? = some (61 * m1Us) := by rw [← ring_eq]; decide
  rw [left] at before
  rw [right] at after
  simp [long, m1Us] at before after
  omega

end Sipmon.Guarantees.AnswerRings
