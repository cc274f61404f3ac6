import Mathlib.Data.List.Flatten
import Sipmon.Guarantees.CallSignals
import Sipmon.Guarantees.LogVersions
import Sipmon.Lib.Run
import Sipmon.Source.Snapshot

/-!
# The caches of the snapshots

Events and diagnostics change only with a new version, so their caches never go
stale. A prune of the heatmap keeps the version: a bucket it drops stays in the
cached list until the next cell is recorded.
-/
namespace Sipmon.Guarantees.SnapshotCaches
open Source Lib Correlator Stages Views LogVersions
open CallSignals (sampleMsg)
open Lib.VersionedCache (Valid valid_read)
open Evlog (MetricSet)

/-! ## The machine -/

/-- The operations of the correlator, those a replay runs on the registry, and snapshots. -/
inductive Input where
  | op (input : Iteration × Op)
  | pushEvent (line : String)
  | pushDiagnostic (d : Diagnostic)
  | recordHeatmapCell (metrics : CallMetrics)
  | pruneHeatmap
  | ensureStart (tsUs : UInt64)
  | importStreamSnap (tsUs : UInt64) (s : StreamSummary)
  | snapshot (iter : Iteration) (limit streamLimit : Nat)

def step (c : Correlator) : Input → Correlator
  | .op input => c.step input
  | .pushEvent line => { c with reg := c.reg.pushEvent line }
  | .pushDiagnostic d => { c with reg := c.reg.pushDiagnostic d }
  | .recordHeatmapCell metrics => { c with reg := c.reg.recordHeatmapCell metrics }
  | .pruneHeatmap => { c with reg := c.reg.pruneHeatmap }
  | .ensureStart tsUs => { c with reg := c.reg.ensureStart tsUs }
  | .importStreamSnap tsUs s => { c with reg := c.reg.importStreamSnap tsUs s }
  | .snapshot iter limit streamLimit => { c with reg := (c.reg.snapshotWith iter limit streamLimit).2 }

/-- Whatever snapshot is taken now shows the current logs and the current cells. -/
def Fresh (c : Correlator) : Prop := ∀ iter limit streamLimit,
  let shown := (c.reg.snapshotWith iter limit streamLimit).1
  shown.events = c.reg.events ∧ shown.diagnostics = c.reg.diagnostics ∧
    shown.buckets.Perm (c.reg.heatmap.flat iter)

/-! ## The cells -/

/-- The order of the passes does not change which cells are listed. -/
theorem flat_perm (iter : Iteration) (map : Heatmap) : (map.flat iter).Perm (map.flat .stored) := by
  have sorted : ∀ l : List (UInt64 × String × MetricSet),
      (l.insertionSort fun a b => a.1.toNat ≤ b.1.toNat).Perm l := fun l => List.perm_insertionSort _ l
  have rows := (iter.perm map.cells.toList).flatMap_right fun row =>
    (iter.order row.2.toList).map fun cell => (row.1, cell.1, cell.2)
  have cells := List.Perm.flatMap_left map.cells.toList fun row _ =>
    (iter.perm row.2.toList).map fun cell => (row.1, cell.1, cell.2)
  exact ((sorted _).trans (rows.trans cells)).trans (sorted _).symm

theorem length_flatMap_filter_iff {α β : Type} (f : α → List β) (p : α → Bool) (l : List α) :
    ((l.filter p).flatMap f).length = (l.flatMap f).length ↔ ∀ a ∈ l, p a = false → f a = [] := by
  induction l with
  | nil => simp
  | cons a rest ih =>
    have less : ((rest.filter p).flatMap f).length ≤ (rest.flatMap f).length :=
      (List.filter_sublist.flatMap f).length_le
    cases kept : p a with
    | true =>
      rw [List.filter_cons_of_pos kept, List.flatMap_cons, List.flatMap_cons, List.length_append,
        List.length_append, Nat.add_left_cancel_iff, ih]
      simp [kept]
    | false =>
      rw [List.filter_cons_of_neg (by simp [kept]), List.flatMap_cons, List.length_append]
      constructor
      · intro same b member dropped
        have nothing : (f a).length = 0 := by omega
        obtain rfl | behind := List.mem_cons.mp member
        · exact List.eq_nil_of_length_eq_zero nothing
        · exact ih.mp (by omega) b behind dropped
      · intro empty
        rw [empty a List.mem_cons_self kept, List.length_nil, Nat.zero_add]
        exact ih.mpr fun b member => empty b (List.mem_cons_of_mem a member)

/-- A prune would drop a bucket that has cells. -/
def Drops (reg : Registry) : Prop := ∃ last ∈ reg.lastUs, ∃ row ∈ reg.heatmap.cells.toList,
  row.1.toNat < last.toNat - reg.heatmapRetainUs.toNat ∧ row.2.toList ≠ []

theorem length_flat (map : Heatmap) : (map.flat .stored).length = (map.cells.toList.flatMap fun row =>
    row.2.toList.map fun cell => (row.1, cell.1, cell.2)).length := by
  rw [Heatmap.flat, List.length_insertionSort]
  rfl

/-- A prune that drops no cell leaves the list of the cells as it is. -/
theorem flat_pruneHeatmap (reg : Registry) :
    (reg.heatmap.flat .stored).Perm (reg.pruneHeatmap.heatmap.flat .stored) ↔ ¬ Drops reg := by
  unfold Registry.pruneHeatmap Drops
  cases reg.lastUs with
  | none => simp
  | some last =>
    dsimp only
    generalize cutoff_eq : last.toNat - reg.heatmapRetainUs.toNat = cutoff
    have kept : (reg.heatmap.pruneOlderThan cutoff).cells.toList =
        reg.heatmap.cells.toList.filter fun row => decide (cutoff ≤ row.1.toNat) := by
      simp only [Heatmap.pruneOlderThan, FiniteMap.retain, FiniteMap.toList, List.filter_map]
      rfl
    have rule := length_flatMap_filter_iff
      (fun row : UInt64 × FiniteMap String MetricSet => row.2.toList.map fun cell => (row.1, cell.1, cell.2))
      (fun row => decide (cutoff ≤ row.1.toNat)) reg.heatmap.cells.toList
    rw [← kept, ← length_flat, ← length_flat] at rule
    have untouched : (¬ ∃ l ∈ some last, ∃ row ∈ reg.heatmap.cells.toList,
        row.1.toNat < l.toNat - reg.heatmapRetainUs.toNat ∧ row.2.toList ≠ []) ↔
        ∀ row ∈ reg.heatmap.cells.toList, decide (cutoff ≤ row.1.toNat) = false →
          row.2.toList.map (fun cell => (row.1, cell.1, cell.2)) = [] := by
      simp only [Option.mem_def, Option.some.injEq, exists_eq_left', cutoff_eq, not_exists, not_and,
        decide_eq_false_iff_not, not_le, List.map_eq_nil_iff, not_not]
    rw [untouched]
    constructor
    · exact fun perm => rule.mp perm.length_eq.symm
    · intro empty
      have same : (reg.heatmap.pruneOlderThan cutoff).flat .stored = reg.heatmap.flat .stored := by
        have sub : (reg.heatmap.pruneOlderThan cutoff).cells.toList.flatMap
            (fun row => row.2.toList.map fun cell => (row.1, cell.1, cell.2)) =
            reg.heatmap.cells.toList.flatMap fun row => row.2.toList.map fun cell => (row.1, cell.1, cell.2) := by
          refine List.Sublist.eq_of_length ?_ ?_
          · rw [kept]
            exact List.filter_sublist.flatMap _
          · rw [← length_flat, ← length_flat]
            exact rule.mpr empty
        exact congrArg (List.insertionSort fun a b => a.1.toNat ≤ b.1.toNat) sub
      rw [same]

/-! ## Valid caches -/

/-- A list of cells shows a heatmap, in any order. -/
def ShowsCells (buckets : List (UInt64 × String × MetricSet)) (map : Heatmap) : Prop :=
  buckets.Perm (map.flat .stored)

/-- Every cache shows its store whenever its version is current. -/
structure Coherent (reg : Registry) : Prop where
  events : Valid Eq reg.eventsCache (events reg)
  diagnostics : Valid Eq reg.diagCache (diagnostics reg)
  buckets : Valid ShowsCells reg.bucketsCache (heatmap reg)

theorem Coherent.onward {a b : Registry} (holds : Coherent a) (onward : Onward a b) : Coherent b := by
  have same := onward.caches
  simp only [caches, Prod.mk.injEq] at same
  obtain ⟨events, diagnostics, buckets⟩ := same
  exact ⟨events ▸ holds.events.moved onward.events,
    diagnostics ▸ holds.diagnostics.moved onward.diagnostics, buckets ▸ holds.buckets.moved onward.heatmap⟩

/-- The snapshot functions are reads of their caches. -/
theorem eventsSnapshot_eq (reg : Registry) : reg.eventsSnapshot =
    ((VersionedCache.read id reg.eventsCache (events reg)).1,
      { reg with eventsCache := (VersionedCache.read id reg.eventsCache (events reg)).2 }) := by
  unfold Registry.eventsSnapshot VersionedCache.read events
  cases held : reg.eventsCache with
  | none => rfl
  | some entry =>
    dsimp only
    split
    · rw [← held]
    · rfl

theorem diagSnapshot_eq (reg : Registry) : reg.diagSnapshot =
    ((VersionedCache.read id reg.diagCache (diagnostics reg)).1,
      { reg with diagCache := (VersionedCache.read id reg.diagCache (diagnostics reg)).2 }) := by
  unfold Registry.diagSnapshot VersionedCache.read diagnostics
  cases held : reg.diagCache with
  | none => rfl
  | some entry =>
    dsimp only
    split
    · rw [← held]
    · rfl

theorem bucketsSnapshot_eq (iter : Iteration) (reg : Registry) : reg.bucketsSnapshot iter =
    ((VersionedCache.read (Heatmap.flat iter) reg.bucketsCache (heatmap reg)).1,
      { reg with bucketsCache := (VersionedCache.read (Heatmap.flat iter) reg.bucketsCache (heatmap reg)).2 }) := by
  unfold Registry.bucketsSnapshot VersionedCache.read heatmap
  cases held : reg.bucketsCache with
  | none => rfl
  | some entry =>
    dsimp only
    split
    · rw [← held]
    · rfl

section Reads

variable (iter : Iteration) (reg : Registry) (limit streamLimit : Nat)

theorem snapshot_events : (reg.snapshotWith iter limit streamLimit).1.events =
    (VersionedCache.read id reg.eventsCache (events reg)).1 := by
  simp only [Registry.snapshotWith, eventsSnapshot_eq]

theorem snapshot_diagnostics : (reg.snapshotWith iter limit streamLimit).1.diagnostics =
    (VersionedCache.read id reg.diagCache (diagnostics reg)).1 := by
  simp only [Registry.snapshotWith, eventsSnapshot_eq, diagSnapshot_eq]
  rfl

theorem snapshot_buckets : (reg.snapshotWith iter limit streamLimit).1.buckets =
    (VersionedCache.read (Heatmap.flat iter) reg.bucketsCache (heatmap reg)).1 := by
  simp only [Registry.snapshotWith, eventsSnapshot_eq, diagSnapshot_eq, bucketsSnapshot_eq]
  rfl

theorem snapshot_registry : (reg.snapshotWith iter limit streamLimit).2 =
    { reg with
      eventsCache := (VersionedCache.read id reg.eventsCache (events reg)).2
      diagCache := (VersionedCache.read id reg.diagCache (diagnostics reg)).2
      bucketsCache := (VersionedCache.read (Heatmap.flat iter) reg.bucketsCache (heatmap reg)).2 } := by
  simp only [Registry.snapshotWith, eventsSnapshot_eq, diagSnapshot_eq, bucketsSnapshot_eq]
  rfl

end Reads

/-- A snapshot leaves the caches coherent. -/
theorem Coherent.snapshot {reg : Registry} (holds : Coherent reg) (iter : Iteration)
    (limit streamLimit : Nat) : Coherent (reg.snapshotWith iter limit streamLimit).2 := by
  rw [snapshot_registry]
  exact ⟨(valid_read (fun _ => rfl) holds.events).2, (valid_read (fun _ => rfl) holds.diagnostics).2,
    (valid_read (flat_perm iter) holds.buckets).2⟩

theorem Coherent.fresh {c : Correlator} (holds : Coherent c.reg) : Fresh c := by
  intro iter limit streamLimit
  dsimp only
  rw [snapshot_events, snapshot_diagnostics, snapshot_buckets]
  exact ⟨(valid_read (fun _ => rfl) holds.events).1, (valid_read (fun _ => rfl) holds.diagnostics).1,
    (valid_read (flat_perm iter) holds.buckets).1.trans (flat_perm iter _).symm⟩

/-- What a snapshot would trust shows the cells, when snapshots are fresh. -/
theorem Fresh.trusted {c : Correlator} (fresh : Fresh c) {buckets : List (UInt64 × String × MetricSet)}
    (held : c.reg.bucketsCache = some (c.reg.heatVer, buckets)) : ShowsCells buckets c.reg.heatmap := by
  obtain ⟨_, _, shown⟩ := fresh .stored 0 0
  rw [snapshot_buckets, VersionedCache.read_current _ (heatmap c.reg) held] at shown
  exact shown

/-! ## Prunes -/

/-- The cached list of cells would be served as it is. -/
def BucketsCurrent (reg : Registry) : Prop := ∃ buckets, reg.bucketsCache = some (reg.heatVer, buckets)

theorem pruneHeatmap_stores (reg : Registry) : caches reg.pruneHeatmap = caches reg ∧
    events reg.pruneHeatmap = events reg ∧ diagnostics reg.pruneHeatmap = diagnostics reg ∧
    reg.pruneHeatmap.heatVer = reg.heatVer := by
  unfold Registry.pruneHeatmap
  split <;> exact ⟨rfl, rfl, rfl, rfl⟩

theorem coherent_pruneHeatmap_iff {reg : Registry} (holds : Coherent reg) :
    Coherent reg.pruneHeatmap ↔ ¬ (BucketsCurrent reg ∧ Drops reg) := by
  obtain ⟨same, lines, diags, version⟩ := pruneHeatmap_stores reg
  simp only [caches, Prod.mk.injEq] at same
  obtain ⟨eventsCache, diagCache, bucketsCache⟩ := same
  have cells : Coherent reg.pruneHeatmap ↔
      Valid ShowsCells reg.bucketsCache (reg.heatVer, reg.pruneHeatmap.heatmap) := by
    have pruned : heatmap reg.pruneHeatmap = (reg.heatVer, reg.pruneHeatmap.heatmap) :=
      Prod.ext version rfl
    constructor
    · intro after
      have valid := after.buckets
      rwa [bucketsCache, pruned] at valid
    · intro valid
      refine ⟨?_, ?_, ?_⟩
      · rw [eventsCache, lines]; exact holds.events
      · rw [diagCache, diags]; exact holds.diagnostics
      · rw [bucketsCache, pruned]; exact valid
  rw [cells, VersionedCache.Valid.silent_iff reg.heatmap _ holds.buckets]
  constructor
  · rintro trusted ⟨⟨buckets, held⟩, drops⟩
    have before : ShowsCells buckets reg.heatmap := (holds.buckets _ _ held).2 rfl
    exact (flat_pruneHeatmap reg).mp (before.symm.trans (trusted buckets held)) drops
  · intro safe buckets held
    have before : ShowsCells buckets reg.heatmap := (holds.buckets _ _ held).2 rfl
    exact before.trans ((flat_pruneHeatmap reg).mpr fun drops => safe ⟨⟨buckets, held⟩, drops⟩)

/-- Coherence looks at the caches and at the stores they were read from. -/
theorem coherent_of_memo {a b : Registry} (cached : caches b = caches a) (lines : events b = events a)
    (diags : diagnostics b = diagnostics a) (cells : heatmap b = heatmap a) : Coherent b ↔ Coherent a := by
  have onward : Onward a { b with
      searchHint := a.searchHint, searchMatches := a.searchMatches, focusHint := a.focusHint } :=
    ⟨rfl, cached, .inr lines, .inr diags, .inr cells⟩
  have back : Onward b { a with
      searchHint := b.searchHint, searchMatches := b.searchMatches, focusHint := b.focusHint } :=
    ⟨rfl, cached.symm, .inr lines.symm, .inr diags.symm, .inr cells.symm⟩
  constructor
  · intro holds
    have there := holds.onward back
    exact ⟨there.events, there.diagnostics, there.buckets⟩
  · intro holds
    have there := holds.onward onward
    exact ⟨there.events, there.diagnostics, there.buckets⟩

/-- Whether an input prunes the heatmap. -/
def prunes (c : Correlator) : Input → Bool
  | .op (_, .flush ts) => tickerDue c.lastFlushUs ts flushPeriodUs
  | .pruneHeatmap => true
  | _ => false

/-- No prune drops a bucket that the cached list would still show. -/
def PruneSafe (c : Correlator) (input : Input) : Prop :=
  prunes c input = true → ¬ (BucketsCurrent c.reg ∧ Drops c.reg)

/-- A prune looks at the clock, the retention and the cells. -/
theorem pruned_congr {a b : Registry} (cut : retention b = retention a) (cells : heatmap b = heatmap a) :
    heatmap b.pruneHeatmap = heatmap a.pruneHeatmap := by
  have last : b.lastUs = a.lastUs := congrArg Prod.fst cut
  have retain : b.heatmapRetainUs = a.heatmapRetainUs := congrArg Prod.snd cut
  have map : b.heatmap = a.heatmap := congrArg Prod.snd cells
  have version : b.heatVer = a.heatVer := congrArg Prod.fst cells
  unfold Registry.pruneHeatmap heatmap
  rw [last, retain, map, version]
  cases a.lastUs with
  | none => exact Prod.ext version map
  | some _ => rfl

theorem hinted_stores (iter : Iteration) (c : Correlator) : caches (hinted iter c) = caches c.reg ∧
    events (hinted iter c) = events c.reg ∧ diagnostics (hinted iter c) = diagnostics c.reg ∧
    heatmap (hinted iter c) = heatmap c.reg := by
  unfold hinted Registry.refreshSearchMatches
  split
  · split <;> exact ⟨rfl, rfl, rfl, rfl⟩
  · exact ⟨rfl, rfl, rfl, rfl⟩

/-- A due periodic pass does to the stores what the prune alone does. -/
theorem flush_stores (iter : Iteration) {c : Correlator} {ts : UInt64}
    (due : tickerDue c.lastFlushUs ts flushPeriodUs = true) :
    caches (c.maybePeriodicFlush iter ts).reg = caches c.reg.pruneHeatmap ∧
      events (c.maybePeriodicFlush iter ts).reg = events c.reg.pruneHeatmap ∧
      diagnostics (c.maybePeriodicFlush iter ts).reg = diagnostics c.reg.pruneHeatmap ∧
      heatmap (c.maybePeriodicFlush iter ts).reg = heatmap c.reg.pruneHeatmap := by
  have left := memo_maybePeriodicFlush iter c ts
  rw [lastFlushUs_ipattrTick, if_pos due] at left
  have snap := memo_snapped iter c ts
  have start := memo_flushed iter c ts
  have cut : retention (flushed iter c ts).reg = retention c.reg :=
    staying_retention.ipattrTick iter c ts
  have refreshed := hinted_stores iter (snapped iter c ts)
  generalize flushed iter c ts = f at start cut snap
  have before := pruneHeatmap_stores c.reg
  have after := pruneHeatmap_stores f.reg
  simp only [memo, Prod.mk.injEq] at left snap start
  obtain ⟨_, cached, lines, diags, cells⟩ := left
  refine ⟨?_, ?_, ?_, ?_⟩
  · rw [cached, refreshed.1, snap.2.1, after.1, start.2.1, before.1]
  · rw [lines, refreshed.2.1, snap.2.2.1, after.2.1, start.2.2.1, before.2.1]
  · rw [diags, refreshed.2.2.1, snap.2.2.2.1, after.2.2.1, start.2.2.2.1, before.2.2.1]
  · rw [cells, refreshed.2.2.2, snap.2.2.2.2, pruned_congr cut start.2.2.2.2]

theorem flush_idle (iter : Iteration) {c : Correlator} {ts : UInt64}
    (early : ¬ tickerDue c.lastFlushUs ts flushPeriodUs = true) :
    memo (c.maybePeriodicFlush iter ts).reg = memo c.reg := by
  have left := memo_maybePeriodicFlush iter c ts
  rwa [lastFlushUs_ipattrTick, if_neg early] at left

theorem coherent_flush_iff (iter : Iteration) {c : Correlator} (ts : UInt64) (holds : Coherent c.reg) :
    Coherent (c.maybePeriodicFlush iter ts).reg ↔ PruneSafe c (.op (iter, .flush ts)) := by
  by_cases due : tickerDue c.lastFlushUs ts flushPeriodUs = true
  · obtain ⟨cached, lines, diags, cells⟩ := flush_stores iter due
    rw [coherent_of_memo cached lines diags cells, coherent_pruneHeatmap_iff holds]
    exact ⟨fun safe _ => safe, fun safe => safe due⟩
  · have idle := flush_idle iter due
    simp only [memo, Prod.mk.injEq] at idle
    refine iff_of_true ?_ fun pruned => absurd pruned due
    exact (coherent_of_memo idle.2.1 idle.2.2.1 idle.2.2.2.1 idle.2.2.2.2).mpr holds

theorem coherent_search (iter : Iteration) {c : Correlator} (q : Option String) (holds : Coherent c.reg) :
    Coherent (c.setSearch iter q).reg := by
  change Coherent (c.reg.setSearchHint iter q)
  unfold Registry.setSearchHint
  dsimp only
  split
  · exact holds
  · generalize Option.filter _ _ = hint
    unfold Registry.refreshSearchMatches
    split <;> exact ⟨holds.events, holds.diagnostics, holds.buckets⟩

theorem coherent_importStreamSnap {reg : Registry} (tsUs : UInt64) (s : StreamSummary)
    (holds : Coherent reg) : Coherent (reg.importStreamSnap tsUs s) := by
  have added : ∀ reg : Registry, Coherent reg → Coherent (reg.addImportedStream s) := by
    intro reg holds
    unfold Registry.addImportedStream
    dsimp only
    split
    · exact ⟨holds.events, holds.diagnostics, holds.buckets⟩
    · split
      · exact holds
      · exact ⟨holds.events, holds.diagnostics, holds.buckets⟩
  have timed : ∀ lastUs, Coherent { reg with lastUs } := fun _ =>
    ⟨holds.events, holds.diagnostics, holds.buckets⟩
  unfold Registry.importStreamSnap
  dsimp only
  split
  · have stored : ∀ reg : Registry, Coherent reg → ∀ ipstats, Coherent { reg with ipstats } :=
      fun _ holds _ => ⟨holds.events, holds.diagnostics, holds.buckets⟩
    refine stored _ (added _ ?_) _
    split
    · exact timed _
    · exact holds
  · refine added _ ?_
    split
    · exact timed _
    · exact holds

/-- One step keeps the caches coherent exactly when its prune, if any, is safe. -/
theorem coherent_step_iff {c : Correlator} (input : Input) (holds : Coherent c.reg) :
    Coherent (step c input).reg ↔ PruneSafe c input := by
  have quiet : prunes c input = false → Coherent (step c input).reg →
      (Coherent (step c input).reg ↔ PruneSafe c input) := fun none after =>
    iff_of_true after fun pruned => Bool.noConfusion (none.symm.trans pruned)
  cases input with
  | op input =>
    obtain ⟨iter, op⟩ := input
    cases op with
    | flush ts => exact coherent_flush_iff iter ts holds
    | sip msg => exact quiet rfl (holds.onward (onward_ingestSip iter c msg))
    | rtp ts flow header len encap =>
      exact quiet rfl (holds.onward (onward_ingestRtp c ts flow header len encap))
    | rtcp ts flow msg => exact quiet rfl (holds.onward (onward_ingestRtcp c ts flow msg))
    | terminal id => exact quiet rfl (holds.onward (onward_onCallTerminal iter c id))
    | search q => exact quiet rfl (coherent_search iter q holds)
    | clear => exact quiet rfl ⟨.empty _, .empty _, .empty _⟩
    | _ => exact quiet rfl ⟨holds.events, holds.diagnostics, holds.buckets⟩
  | pruneHeatmap =>
    have pruned := coherent_pruneHeatmap_iff holds
    exact pruned.trans ⟨fun safe _ => safe, fun safe => safe rfl⟩
  | pushEvent line => exact quiet rfl (holds.onward (onward_pushEvent c.reg line))
  | pushDiagnostic d => exact quiet rfl (holds.onward (onward_pushDiagnostic c.reg d))
  | recordHeatmapCell metrics => exact quiet rfl (holds.onward (onward_recordHeatmapCell c.reg metrics))
  | ensureStart tsUs => exact quiet rfl ⟨holds.events, holds.diagnostics, holds.buckets⟩
  | importStreamSnap tsUs s => exact quiet rfl (coherent_importStreamSnap tsUs s holds)
  | snapshot iter limit streamLimit => exact quiet rfl (holds.snapshot iter limit streamLimit)

/-! ## Runs -/

/-- No cache is newer than its store. -/
structure Bounded (reg : Registry) : Prop where
  events : ∀ e ∈ reg.eventsCache, e.1 ≤ reg.eventsVer
  diagnostics : ∀ e ∈ reg.diagCache, e.1 ≤ reg.diagVer
  buckets : ∀ e ∈ reg.bucketsCache, e.1 ≤ reg.heatVer

theorem Coherent.bounded {reg : Registry} (holds : Coherent reg) : Bounded reg :=
  ⟨fun e held => (holds.events e.1 e.2 held).1, fun e held => (holds.diagnostics e.1 e.2 held).1,
    fun e held => (holds.buckets e.1 e.2 held).1⟩

theorem Fresh.coherent {c : Correlator} (fresh : Fresh c) (bounded : Bounded c.reg) : Coherent c.reg := by
  obtain ⟨lines, diags, _⟩ := fresh .stored 0 0
  rw [snapshot_events] at lines
  rw [snapshot_diagnostics] at diags
  refine ⟨fun v kept held => ⟨bounded.events _ held, ?_⟩,
    fun v kept held => ⟨bounded.diagnostics _ held, ?_⟩, fun v kept held => ⟨bounded.buckets _ held, ?_⟩⟩
  · rintro rfl
    rwa [VersionedCache.read_current _ (LogVersions.events c.reg) held] at lines
  · rintro rfl
    rwa [VersionedCache.read_current _ (LogVersions.diagnostics c.reg) held] at diags
  · rintro rfl
    exact fresh.trusted held

theorem bounded_of_memo {a b : Registry} (cached : caches b = caches a) (lines : events b = events a)
    (diags : diagnostics b = diagnostics a) (cells : b.heatVer = a.heatVer) (holds : Bounded a) :
    Bounded b := by
  simp only [caches, events, diagnostics, Prod.mk.injEq] at cached lines diags
  constructor
  · rw [cached.1, lines.1]; exact holds.events
  · rw [cached.2.1, diags.1]; exact holds.diagnostics
  · rw [cached.2.2, cells]; exact holds.buckets

theorem bounded_step {c : Correlator} (input : Input) (holds : Coherent c.reg) :
    Bounded (step c input).reg := by
  by_cases safe : PruneSafe c input
  · exact ((coherent_step_iff input holds).mpr safe).bounded
  · have pruned : Bounded c.reg.pruneHeatmap := by
      obtain ⟨cached, lines, diags, version⟩ := pruneHeatmap_stores c.reg
      exact bounded_of_memo cached lines diags version holds.bounded
    have prune : prunes c input = true := (Classical.not_imp.mp safe).1
    unfold prunes at prune
    split at prune
    · next iter ts =>
      obtain ⟨cached, lines, diags, cells⟩ := flush_stores iter prune
      exact bounded_of_memo cached lines diags (congrArg Prod.fst cells) pruned
    · exact pruned
    · cases prune

/-- Along every run of operations and snapshots, every snapshot that is taken or
could be taken shows the stores as they are, if and only if no prune drops a
bucket while the cached list of the cells is current. -/
theorem fresh_along_iff (iter : Iteration) (config : Config) (source : String) (inputs : List Input) :
    Run.Along step (fun c input => Fresh (step c input)) (.new iter config source) inputs ↔
      Run.Along step PruneSafe (.new iter config source) inputs := by
  have start : Coherent (Correlator.new iter config source).reg := ⟨.empty _, .empty _, .empty _⟩
  generalize Correlator.new iter config source = c at start
  induction inputs generalizing c with
  | nil => exact iff_of_true trivial trivial
  | cons input rest ih =>
    constructor
    · rintro ⟨fresh, later⟩
      have next := fresh.coherent (bounded_step input start)
      exact ⟨(coherent_step_iff input start).mp next, (ih _ next).mp later⟩
    · rintro ⟨safe, later⟩
      have next := (coherent_step_iff input start).mpr safe
      exact ⟨next.fresh, (ih _ next).mpr later⟩

/-- A call that fails, a snapshot of its cell, and a day later a periodic pass. -/
def agedCell : List Input :=
  [.op (.stored, .sip (sampleMsg 1 true (some .invite) none "INVITE" none)),
    .op (.stored, .sip (sampleMsg 2 false none (some 486) "INVITE" (some "b"))),
    .snapshot .stored 100 100, .op (.stored, .flush 3), .op (.stored, .touchTime 90000000000),
    .op (.stored, .flush 90000000000)]

/-- The cell has left the heatmap and is still shown. -/
theorem agedCell_shown : ¬ ∀ (iter : Iteration) (config : Config) (source : String) (inputs : List Input),
    Run.Along step (fun c input => Fresh (step c input)) (.new iter config source) inputs := by
  intro holds
  have last := (Run.along_iff _ _).mp (holds .stored {} "eth0" agedCell) (agedCell.take 5)
    (.op (.stored, .flush 90000000000)) [] rfl
  obtain ⟨_, _, shown⟩ := last .stored 100 100
  have lengths := shown.length_eq
  revert lengths
  decide +kernel

end Sipmon.Guarantees.SnapshotCaches
