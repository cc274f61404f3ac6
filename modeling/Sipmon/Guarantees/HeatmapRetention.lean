import Sipmon.Lib.History
import Sipmon.Source.Registry

/-!
# What the heatmap retains

Cells count the calls recorded in them. A prune drops a bucket when its start is
older than the retention, and with it the calls of its last part that are not: the
heatmap holds every call within the retention exactly if no cutoff falls between
the start of a bucket and a call in it.
-/
namespace Sipmon.Guarantees.HeatmapRetention
open Source
open Evlog (MetricSet)
open Lib (FiniteMap)
open Lib.Run (Along history_iff admitted_of_pairwise)

inductive Op where
  | touch (tsUs : UInt64)
  | record (call : CallMetrics)
  | prune

def apply (reg : Registry) : Op → Registry
  | .touch ts => reg.touchTime ts
  | .record call => reg.recordHeatmapCell call
  | .prune => reg.pruneHeatmap

/-- A registry with an empty heatmap. -/
def fresh (source : String) (bucketSecs retainUs : UInt64) : Registry :=
  { Registry.withSource source with heatmap := .new bucketSecs, heatmapRetainUs := retainUs }

/-- Capture time does not go back. -/
def Ordered (ops : List Op) : Prop :=
  ops.Pairwise fun a b => ∀ early late, a = .touch early → b = .touch late → early ≤ late

/-! ## What should be there -/

def recorded (past : List Op) : List CallMetrics :=
  past.filterMap fun
    | .record call => some call
    | _ => none

/-- Within the retention before the last capture time. -/
def within (reg : Registry) (call : CallMetrics) : Bool :=
  reg.lastUs.all fun last => decide (last.toNat ≤ call.tsUs.toNat + reg.heatmapRetainUs.toNat)

/-- Calls, answered and failed ones. -/
def counts (cell : MetricSet) : UInt64 × UInt64 × UInt64 := (cell.calls, cell.answered, cell.failed)

def countCalls (calls : List CallMetrics) : UInt64 × UInt64 × UInt64 :=
  (.ofNat calls.length, .ofNat (calls.countP (·.answered)), .ofNat (calls.countP (·.failed)))

/-- What the heatmap counts in a cell, if it has it. -/
def cellAt (map : Heatmap) (bucket : UInt64) (key : String) : Option (UInt64 × UInt64 × UInt64) :=
  ((map.cells.lookup bucket).bind (·.lookup key)).map counts

/-- What there is to count in a cell. -/
def tallyAt (map : Heatmap) (calls : List CallMetrics) (bucket : UInt64) (key : String) :
    Option (UInt64 × UInt64 × UInt64) :=
  let here := calls.filter fun call => map.bucketOf call.tsUs == bucket && call.key == key
  if here.isEmpty then none else some (countCalls here)

/-- The cells count some of the recorded calls, each once, and all of those within
the retention. -/
def Retained (past : List Op) (reg : Registry) : Prop :=
  ∃ kept, kept.Sublist (recorded past) ∧ ((recorded past).filter (within reg)).Sublist kept ∧
    ∀ bucket key, cellAt reg.heatmap bucket key = tallyAt reg.heatmap kept bucket key

/-! ## Cells -/

/-- One more call. -/
def bump (n : UInt64 × UInt64 × UInt64) (call : CallMetrics) : UInt64 × UInt64 × UInt64 :=
  (n.1 + 1, if call.answered then n.2.1 + 1 else n.2.1, if call.failed then n.2.2 + 1 else n.2.2)

theorem countCalls_concat (calls : List CallMetrics) (call : CallMetrics) :
    countCalls (calls ++ [call]) = bump (countCalls calls) call := by
  have more (p : CallMetrics → Bool) : UInt64.ofNat ((calls ++ [call]).countP p) =
      if p call then UInt64.ofNat (calls.countP p) + 1 else UInt64.ofNat (calls.countP p) := by
    cases chosen : p call <;> simp [chosen, UInt64.ofNat_add]
  rw [countCalls, more, more]
  simp [bump, countCalls, UInt64.ofNat_add]

theorem cellAt_recordCall (map : Heatmap) (call : CallMetrics) (bucket : UInt64) (key : String) :
    cellAt (map.recordCall call) bucket key =
      if map.bucketOf call.tsUs = bucket ∧ call.key = key then
        some (bump ((cellAt map bucket key).getD (0, 0, 0)) call)
      else cellAt map bucket key := by
  unfold cellAt Heatmap.recordCall
  dsimp only
  rw [FiniteMap.lookup_upsert]
  by_cases own : map.bucketOf call.tsUs = bucket
  · subst own
    rw [if_pos rfl, Option.bind_some, FiniteMap.lookup_upsert]
    by_cases same : call.key = key
    · subst same
      rw [if_pos rfl, if_pos ⟨rfl, rfl⟩]
      cases map.cells.lookup (map.bucketOf call.tsUs) with
      | none => rfl
      | some row =>
        cases present : row.lookup call.key <;> simp [present, counts, bump, MetricSet.record]
    · rw [if_neg (Ne.symm same), if_neg fun both => same both.2]
      cases map.cells.lookup (map.bucketOf call.tsUs) <;> rfl
  · rw [if_neg (Ne.symm own), if_neg fun both => own both.1]

theorem cellAt_pruneOlderThan (map : Heatmap) (cutoffUs : Nat) (bucket : UInt64) (key : String) :
    cellAt (map.pruneOlderThan cutoffUs) bucket key =
      if cutoffUs ≤ bucket.toNat then cellAt map bucket key else none := by
  unfold cellAt Heatmap.pruneOlderThan
  dsimp only
  rw [FiniteMap.lookup_retain]
  cases map.cells.lookup bucket with
  | none => simp
  | some row => by_cases young : cutoffUs ≤ bucket.toNat <;> simp [Option.filter, young]

theorem tallyAt_concat (map : Heatmap) (calls : List CallMetrics) (call : CallMetrics) (bucket : UInt64)
    (key : String) :
    tallyAt map (calls ++ [call]) bucket key =
      if map.bucketOf call.tsUs = bucket ∧ call.key = key then
        some (bump ((tallyAt map calls bucket key).getD (0, 0, 0)) call)
      else tallyAt map calls bucket key := by
  unfold tallyAt
  dsimp only
  by_cases own : map.bucketOf call.tsUs = bucket ∧ call.key = key
  · have last : [call].filter (fun call => map.bucketOf call.tsUs == bucket && call.key == key) = [call] := by
      simp [own]
    rw [if_pos own, List.filter_append, last]
    generalize calls.filter _ = here
    rw [countCalls_concat]
    cases here <;> simp [countCalls]
  · have last : [call].filter (fun call => map.bucketOf call.tsUs == bucket && call.key == key) = [] := by
      simpa using own
    rw [if_neg own, List.filter_append, last, List.append_nil]

theorem tallyAt_filter (map : Heatmap) (calls : List CallMetrics) (cutoffUs : Nat) (bucket : UInt64)
    (key : String) :
    tallyAt map (calls.filter fun call => cutoffUs ≤ (map.bucketOf call.tsUs).toNat) bucket key =
      if cutoffUs ≤ bucket.toNat then tallyAt map calls bucket key else none := by
  unfold tallyAt
  dsimp only
  rw [List.filter_filter]
  by_cases young : cutoffUs ≤ bucket.toNat
  · rw [if_pos young]
    have same : ∀ call ∈ calls, (map.bucketOf call.tsUs == bucket && call.key == key &&
        decide (cutoffUs ≤ (map.bucketOf call.tsUs).toNat)) =
        (map.bucketOf call.tsUs == bucket && call.key == key) := by
      intro call _
      by_cases own : map.bucketOf call.tsUs = bucket <;> simp [own, young]
    rw [List.filter_congr same]
  · rw [if_neg young]
    have nothing : ∀ call ∈ calls, ¬(map.bucketOf call.tsUs == bucket && call.key == key &&
        decide (cutoffUs ≤ (map.bucketOf call.tsUs).toNat)) = true := by
      intro call _
      by_cases own : map.bucketOf call.tsUs = bucket <;> simp [own, young]
    rw [List.filter_eq_nil_iff.mpr nothing]
    rfl

/-! ## Runs -/

/-- A registry, and the recorded calls whose buckets it has. -/
structure Ledger where
  reg : Registry
  kept : List CallMetrics := []

/-- Where a prune cuts. -/
def cutoff (reg : Registry) : Nat := (reg.lastUs.map fun last => last.toNat - reg.heatmapRetainUs.toNat).getD 0

namespace Ledger

def step (w : Ledger) (op : Op) : Ledger :=
  { reg := apply w.reg op
    kept := match op with
      | .touch _ => w.kept
      | .record call => w.kept ++ [call]
      | .prune => w.kept.filter fun call => cutoff w.reg ≤ (w.reg.heatmap.bucketOf call.tsUs).toNat }

/-- No prune cuts between the start of a bucket and a call in it. -/
def Clean (w : Ledger) (op : Op) : Prop :=
  op = .prune → ∀ call ∈ w.kept, cutoff w.reg ≤ call.tsUs.toNat →
    cutoff w.reg ≤ (w.reg.heatmap.bucketOf call.tsUs).toNat

/-- The heatmap counts the calls of the ledger, among them all within the retention. -/
structure Sound (past : List Op) (w : Ledger) : Prop where
  known : w.kept.Sublist (recorded past)
  recent : ((recorded past).filter (within w.reg)).Sublist w.kept
  cells : ∀ bucket key, cellAt w.reg.heatmap bucket key = tallyAt w.reg.heatmap w.kept bucket key
  clock : ∀ last, w.reg.lastUs = some last → .touch last ∈ past

theorem Sound.retained {past : List Op} {w : Ledger} (sound : Sound past w) : Retained past w.reg :=
  ⟨w.kept, sound.known, sound.recent, sound.cells⟩

theorem within_iff (reg : Registry) (call : CallMetrics) :
    within reg call = true ↔ cutoff reg ≤ call.tsUs.toNat := by
  unfold within cutoff
  cases reg.lastUs with
  | none => simp
  | some last =>
    simp only [Option.all_some, decide_eq_true_eq, Option.map_some, Option.getD_some]
    omega

theorem cellAt_pruneHeatmap (reg : Registry) (bucket : UInt64) (key : String) :
    cellAt reg.pruneHeatmap.heatmap bucket key =
      if cutoff reg ≤ bucket.toNat then cellAt reg.heatmap bucket key else none := by
  unfold Registry.pruneHeatmap cutoff
  cases reg.lastUs with
  | none => exact (if_pos (Nat.zero_le _)).symm
  | some last => exact cellAt_pruneOlderThan _ _ _ _

/-- A prune moves neither the clock nor the width of the buckets. -/
theorem pruneHeatmap_frame (reg : Registry) :
    reg.pruneHeatmap.lastUs = reg.lastUs ∧ within reg.pruneHeatmap = within reg ∧
      tallyAt reg.pruneHeatmap.heatmap = tallyAt reg.heatmap := by
  unfold Registry.pruneHeatmap
  split
  · next last found => exact ⟨found.symm ▸ rfl, by unfold within; rw [found], rfl⟩
  · exact ⟨rfl, rfl, rfl⟩

section Step

variable {past : List Op} {w : Ledger}

theorem Sound.touch (sound : Sound past w) (ts : UInt64)
    (later : ∀ op ∈ past, ∀ early late, op = .touch early → Op.touch ts = .touch late → early ≤ late) :
    Sound (past ++ [.touch ts]) (w.step (.touch ts)) := by
  have same : recorded (past ++ [.touch ts]) = recorded past := by simp [recorded]
  have narrower : ∀ call, within (w.reg.touchTime ts) call = true → within w.reg call = true := by
    intro call inside
    rw [within_iff] at inside ⊢
    cases known : w.reg.lastUs with
    | none => simp [cutoff, known]
    | some last =>
      have order := UInt64.le_iff_toNat_le.mp (later _ (sound.clock last known) last ts rfl rfl)
      have now : cutoff (w.reg.touchTime ts) = ts.toNat - w.reg.heatmapRetainUs.toNat := rfl
      have before : cutoff w.reg = last.toNat - w.reg.heatmapRetainUs.toNat := by simp [cutoff, known]
      omega
  refine ⟨?_, ?_, sound.cells, ?_⟩
  · rw [same]
    exact sound.known
  · rw [same]
    exact (List.monotone_filter_right _ narrower).trans sound.recent
  · rintro last found
    obtain rfl := Option.some.inj found
    simp

theorem Sound.record (sound : Sound past w) (call : CallMetrics) :
    Sound (past ++ [.record call]) (w.step (.record call)) := by
  have more : recorded (past ++ [.record call]) = recorded past ++ [call] := by simp [recorded]
  refine ⟨?_, ?_, fun bucket key => ?_, fun last found => ?_⟩
  · rw [more]
    exact sound.known.append (List.Sublist.refl _)
  · rw [more, List.filter_append]
    exact sound.recent.append List.filter_sublist
  · have counted := cellAt_recordCall w.reg.heatmap call bucket key
    have tallied := tallyAt_concat w.reg.heatmap w.kept call bucket key
    rw [sound.cells, ← tallied] at counted
    exact counted
  · exact List.mem_append_left _ (sound.clock last found)

theorem Sound.prune (sound : Sound past w) (clean : w.Clean .prune) :
    Sound (past ++ [.prune]) (w.step .prune) := by
  have same : recorded (past ++ [.prune]) = recorded past := by simp [recorded]
  obtain ⟨clock, inside, tallies⟩ := pruneHeatmap_frame w.reg
  refine ⟨?_, ?_, fun bucket key => ?_, fun last found => ?_⟩
  · rw [same]
    exact List.filter_sublist.trans sound.known
  · have spared : ((recorded past).filter (within w.reg)).filter
        (fun call => cutoff w.reg ≤ (w.reg.heatmap.bucketOf call.tsUs).toNat) =
        (recorded past).filter (within w.reg) := by
      refine List.filter_eq_self.mpr fun call member => ?_
      have young := (within_iff w.reg call).mp (List.mem_filter.mp member).2
      exact decide_eq_true (clean rfl call (sound.recent.subset member) young)
    change ((recorded (past ++ [.prune])).filter (within w.reg.pruneHeatmap)).Sublist _
    rw [same, inside, ← spared]
    exact sound.recent.filter _
  · change cellAt w.reg.pruneHeatmap.heatmap bucket key = tallyAt w.reg.pruneHeatmap.heatmap _ bucket key
    rw [cellAt_pruneHeatmap, tallies, sound.cells]
    exact (tallyAt_filter _ _ _ _ _).symm
  · exact List.mem_append_left _ (sound.clock last (clock ▸ found))

/-- A prune that cuts a bucket with a recent call is seen. -/
theorem Sound.clean_of_retained (sound : Sound past w)
    (retained : Retained (past ++ [.prune]) w.reg.pruneHeatmap) : w.Clean .prune := by
  obtain ⟨kept, -, recent, cells⟩ := retained
  obtain ⟨-, inside, tallies⟩ := pruneHeatmap_frame w.reg
  rintro - call member young
  by_contra cut
  have same : recorded (past ++ [.prune]) = recorded past := by simp [recorded]
  have still : call ∈ kept := by
    refine recent.subset (List.mem_filter.mpr ⟨?_, ?_⟩)
    · rw [same]
      exact sound.known.subset member
    · rw [inside]
      exact (within_iff w.reg call).mpr young
  have gone := cells (w.reg.heatmap.bucketOf call.tsUs) call.key
  rw [cellAt_pruneHeatmap, if_neg cut, tallies] at gone
  have here : call ∈ kept.filter fun other =>
      w.reg.heatmap.bucketOf other.tsUs == w.reg.heatmap.bucketOf call.tsUs && other.key == call.key :=
    List.mem_filter.mpr ⟨still, by simp⟩
  have nonempty : (kept.filter fun other =>
      w.reg.heatmap.bucketOf other.tsUs == w.reg.heatmap.bucketOf call.tsUs &&
        other.key == call.key).isEmpty = false :=
    List.isEmpty_eq_false_iff.mpr (List.ne_nil_of_mem here)
  rw [tallyAt, nonempty] at gone
  cases gone

end Step

theorem sound_fresh (source : String) (bucketSecs retainUs : UInt64) :
    Sound [] { reg := fresh source bucketSecs retainUs } :=
  ⟨List.Sublist.refl _, List.Sublist.refl _, fun _ _ => rfl, fun _ none_ => by cases none_⟩

theorem reg_foldl (w : Ledger) (ops : List Op) : (ops.foldl step w).reg = ops.foldl apply w.reg := by
  induction ops generalizing w with
  | nil => rfl
  | cons op rest ih => exact ih (w.step op)

end Ledger

/-- For every bucket width, retention and run in the order of capture time, the
heatmap retains what it should after every operation exactly if no prune cuts
between the start of a bucket and a call in it. -/
theorem heatmap_retained_iff (source : String) (bucketSecs retainUs : UInt64) {ops : List Op}
    (ordered : Ordered ops) :
    (∀ before, before <+: ops → Retained before (before.foldl apply (fresh source bucketSecs retainUs))) ↔
      Along Ledger.step Ledger.Clean { reg := fresh source bucketSecs retainUs } ops := by
  have reached (before : List Op) : (before.foldl Ledger.step { reg := fresh source bucketSecs retainUs }).reg =
      before.foldl apply (fresh source bucketSecs retainUs) := Ledger.reg_foldl _ before
  simp only [← reached]
  refine history_iff (Ledger.sound_fresh source bucketSecs retainUs) (fun _ _ sound => sound.retained) (fun past w op later clean sound => ?_)
    (fun past w op _ sound retained => ?_) (admitted_of_pairwise ordered)
  · cases op with
    | touch ts => exact sound.touch ts later
    | record call => exact sound.record call
    | prune => exact sound.prune clean
  · cases op with
    | touch ts => exact fun other => by cases other
    | record call => exact fun other => by cases other
    | prune => exact sound.clean_of_retained retained

/-- An answered call. -/
def callAt (tsUs : UInt64) : CallMetrics :=
  { tsUs, key := "k", answered := true, failed := false, pddMs := none, jitterMs := none, lossPct := none
    rttMs := none, mos := none }

/-- Buckets of ten seconds: the cutoff at the start of a bucket keeps its calls. -/
theorem heatmap_aligned_prune :
    Retained [.touch 20000000, .record (callAt 18000000), .prune]
      ([Op.touch 20000000, .record (callAt 18000000), .prune].foldl apply (fresh "eth0" 10 10000000)) := by
  have along : Along Ledger.step Ledger.Clean { reg := fresh "eth0" 10 10000000 }
      [.touch 20000000, .record (callAt 18000000), .prune] := by
    refine ⟨?_, ?_, ?_, trivial⟩
    · exact fun other => by cases other
    · exact fun other => by cases other
    · rintro - call member -
      obtain rfl : call = callAt 18000000 := by simpa [Ledger.step] using member
      decide
  exact (heatmap_retained_iff "eth0" 10 10000000 (by simp [Ordered])).mpr along _ (List.prefix_refl _)

/-- Buckets of ten seconds and a retention of three: at second 10 the call of
second 8 is gone with the bucket that starts at 0. -/
theorem heatmap_cut_bucket :
    let ops := [Op.touch 10000000, .record (callAt 8000000), .prune]
    Ordered ops ∧ ¬Retained ops (ops.foldl apply (fresh "eth0" 10 3000000)) := by
  refine ⟨by simp [Ordered], fun retained => ?_⟩
  have touched := (Ledger.sound_fresh "eth0" 10 3000000).touch 10000000 fun _ none_ => by cases none_
  have sound := touched.record (callAt 8000000)
  have kept : cutoff _ ≤ _ :=
    sound.clean_of_retained retained rfl (callAt 8000000) (by simp [Ledger.step]) (by decide)
  revert kept
  decide

end Sipmon.Guarantees.HeatmapRetention
