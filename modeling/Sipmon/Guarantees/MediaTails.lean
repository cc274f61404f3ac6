import Sipmon.Guarantees.CallSignals
import Sipmon.Guarantees.LiveRuns
import Sipmon.Guarantees.SnapshotCaches
import Sipmon.Guarantees.StreamMoves
import Sipmon.Lib.Run

/-!
# The tail of a recording

The log is to hold the last counters of every stream. The snapshots are written by the
periodic flush alone, and only when five seconds have passed; a call that ends takes its
streams away as they are, and so does the end of the program. So the last snapshot of a
stream holds its last counters where the stream has counted nothing since the last flush
that was due.
-/
namespace Sipmon.Guarantees.MediaTails
open Source Lib Correlator LiveRuns StreamSheet StreamMoves
open Evlog (Event)
open CallSignals (sampleMsg)

/-! ## Recorded snapshots -/

/-- The last snapshot of a stream. -/
def lastOf (k : StreamKey) (snaps : List Figures) : Option Figures := (snaps.filter (·.key = k)).getLast?

def lastSnap (k : StreamKey) (evs : List Event) : Option Figures := lastOf k (evs.filterMap snapOf)

theorem lastOf_append_other {k : StreamKey} (snaps : List Figures) {more : List Figures}
    (others : ∀ f ∈ more, f.key ≠ k) : lastOf k (snaps ++ more) = lastOf k snaps := by
  have none_left : more.filter (·.key = k) = [] :=
    List.filter_eq_nil_iff.mpr fun f member => by simpa using others f member
  rw [lastOf, List.filter_append, none_left, List.append_nil, lastOf]

theorem lastOf_append_own {k : StreamKey} {f : Figures} (snaps : List Figures) {more : List Figures}
    (own : f.key = k) (member : f ∈ more) (only : ∀ g ∈ more, g.key = k → g = f) :
    lastOf k (snaps ++ more) = some f := by
  have held : more.filter (·.key = k) ≠ [] :=
    List.ne_nil_of_mem (List.mem_filter.mpr ⟨member, by simpa using own⟩)
  have last := List.mem_filter.mp (List.getLast_mem held)
  rw [lastOf, List.filter_append, List.getLast?_append_of_ne_nil _ held, List.getLast?_eq_some_getLast held,
    only _ last.1 (by simpa using last.2)]

/-! ## Runs -/

/-- The state of a run, with the counters at the last flush that was due, and those each
stream had when it was last tracked. -/
structure Tape where
  now : Correlator × List Event
  marks : StreamKey → Option Figures
  last : StreamKey → Option Figures

def flushDue (c : Correlator) : Act → Bool
  | .entry _ (.flush ts) => tickerDue c.lastFlushUs ts flushPeriodUs
  | _ => false

/-- The streams an act takes away. -/
def takenBy (c : Correlator) : Act → List StreamKey
  | .entry _ .clear => c.reg.streams.keys
  | .entry iter (.sip msg) => sipTaken iter c msg
  | .entry iter (.terminal id) => retireTaken iter (c.teardownChecks id) id
  | _ => []

/-- Whether an act leaves the events to the log: a clear drops those that wait. -/
def logs (c : Correlator) : Act → Bool
  | .entry _ .disableEvlogEmit => false
  | .entry _ .clear => c.pendingEvents.isEmpty
  | _ => true

namespace Tape

def next (t : Tape) (act : Act) : Tape :=
  let now := record t.now act
  { now
    marks := if flushDue t.now.1 act then liveFigures t.now.1.reg else t.marks
    last := fun k => (liveFigures now.1.reg k).or (t.last k) }

def blank (iter : Iteration) (config : Config) (source : String) : Tape :=
  { now := (.new iter config source, []), marks := fun _ => none, last := fun _ => none }

/-- Nothing has been counted for the stream since the last flush that was due. -/
def Unmoved (t : Tape) (k : StreamKey) : Prop :=
  (liveFigures t.now.1.reg k).isSome = true → t.marks k = liveFigures t.now.1.reg k

/-- Nothing is kept from the log, and what takes a stream away comes when it is unmoved. -/
def Careful (t : Tape) (act : Act) : Prop :=
  logs t.now.1 act = true ∧ ∀ k ∈ takenBy t.now.1 act, t.Unmoved k

instance (t : Tape) (k : StreamKey) : Decidable (t.Unmoved k) :=
  inferInstanceAs (Decidable ((liveFigures t.now.1.reg k).isSome = true → t.marks k = liveFigures t.now.1.reg k))

instance (t : Tape) (act : Act) : Decidable (t.Careful act) :=
  inferInstanceAs (Decidable (logs t.now.1 act = true ∧ ∀ k ∈ takenBy t.now.1 act, t.Unmoved k))

end Tape

theorem Tape.Unmoved.marked {t : Tape} {k : StreamKey} {f : Figures} (unmoved : t.Unmoved k)
    (tracked : liveFigures t.now.1.reg k = some f) : t.marks k = some f :=
  (unmoved (Option.isSome_of_eq_some tracked)).trans tracked

/-! ## What an act does -/

/-- The counters of the streams, and every snapshot recorded so far. -/
def taped (now : Correlator × List Event) : Sheet :=
  ⟨liveFigures now.1.reg, (recorded now).filterMap snapOf, now.1.emitEvlog⟩

theorem taped_sheet (c : Correlator) (written : List Event) :
    taped (c, written) = { sheet c with snaps := written.filterMap snapOf ++ (sheet c).snaps } := by
  simp only [taped, recorded, sheet, List.filterMap_append]

/-- Streams of these keys may leave. -/
structure Loses (gone : List StreamKey) (s t : Sheet) : Prop where
  drops : s.Drops t
  spared : ∀ k, k ∉ gone → t.live k = s.live k

/-- Every stream's counters are recorded, then streams may leave. -/
structure Saves (s t : Sheet) : Prop where
  live : ∀ k f, t.live k = some f → s.live k = some f
  saved : ∀ k f, s.live k = some f → lastOf k t.snaps = some f
  others : ∀ k, s.live k = none → lastOf k t.snaps = lastOf k s.snaps
  logging : t.logging = s.logging

variable {c after : Correlator} {written : List Event}

theorem loses_of_eq {s t : Sheet} (same : t = s) : Loses [] s t := same ▸ ⟨.refl t, fun _ _ => rfl⟩

theorem loses_of_sheet {gone : List StreamKey} (drops : (sheet c).Drops (sheet after))
    (spares : Spares gone c.reg after.reg) : Loses gone (taped (c, written)) (taped (after, written)) := by
  rw [taped_sheet, taped_sheet]
  exact ⟨⟨drops.live, congrArg (written.filterMap snapOf ++ ·) drops.snaps, drops.logging⟩, spares⟩

theorem taped_of_sheet (same : sheet after = sheet c) : taped (after, written) = taped (c, written) := by
  rw [taped_sheet, taped_sheet, same]

theorem saves_of_flush (iter : Iteration) (logging : c.emitEvlog = true) (keyed : Keyed (sheet c)) {ts : UInt64}
    (due : tickerDue c.lastFlushUs ts flushPeriodUs = true) :
    Saves (taped (c, written)) (taped (c.maybePeriodicFlush iter ts, written)) := by
  obtain ⟨keys, all, drops⟩ := sheet_flush_due iter logging due
  rw [taped_sheet, taped_sheet]
  have snaps : written.filterMap snapOf ++ (sheet (c.maybePeriodicFlush iter ts)).snaps =
      written.filterMap snapOf ++ (sheet c).snaps ++ keys.filterMap (sheet c).live := by
    rw [drops.snaps, List.append_assoc]
  have own : ∀ f ∈ keys.filterMap (sheet c).live, (sheet c).live f.key = some f := by
    intro f member
    obtain ⟨k, -, tracked⟩ := List.mem_filterMap.mp member
    rwa [keyed k f tracked]
  refine ⟨drops.live, fun k f tracked => ?_, fun k untracked => ?_, drops.logging⟩
  · dsimp only at tracked ⊢
    have member := List.mem_filterMap.mpr ⟨k, all k f tracked, tracked⟩
    rw [snaps, lastOf_append_own _ (keyed k f tracked) member fun g inside same => ?_]
    have other := own g inside
    rw [same, tracked] at other
    exact (Option.some.inj other).symm
  · dsimp only at untracked ⊢
    rw [snaps, lastOf_append_other]
    intro f member same
    have tracked := own f member
    rw [same, untracked] at tracked
    cases tracked

theorem sheet_setSearch (iter : Iteration) (c : Correlator) (q : Option String) :
    sheet (c.setSearch iter q) = sheet c := by
  refine sheet_reg c (live_of_streams ?_)
  unfold Registry.setSearchHint Registry.refreshSearchMatches
  dsimp only
  split
  · rfl
  · split <;> rfl

/-- An act takes streams away, counts for one, or saves them all when a flush is due. -/
theorem taped_record {t : Tape} (act : Act) (careful : t.Careful act) (logging : t.now.1.emitEvlog = true)
    (keyed : Keyed (taped t.now)) :
    if flushDue t.now.1 act then Saves (taped t.now) (taped (record t.now act))
    else Loses (takenBy t.now.1 act) (taped t.now) (taped (record t.now act)) ∨
      ∃ f, taped (record t.now act) = counted (taped t.now) f := by
  obtain ⟨⟨c, written⟩, marks, last⟩ := t
  have still : ∀ {after : Correlator}, sheet after = sheet c →
      Loses [] (taped (c, written)) (taped (after, written)) := fun same => loses_of_eq (taped_of_sheet same)
  cases act with
  | entry iter op =>
    cases op with
    | sip msg => exact .inl (loses_of_sheet (drops_ingestSip iter c msg) (spares_ingestSip iter c msg))
    | rtp ts flow header len encap =>
      rcases sheet_ingestRtp c keyed ts flow header len encap with same | ⟨f, moved⟩
      · exact .inl (still same)
      · refine .inr ⟨f, ?_⟩
        change taped (c.ingestRtp ts flow header len encap, written) = counted (taped (c, written)) f
        rw [taped_sheet, taped_sheet, moved]
        rfl
    | rtcp ts flow msg => exact .inl (still (sheet_ingestRtcp c ts flow msg))
    | terminal id => exact .inl (loses_of_sheet (drops_onCallTerminal iter c id) (spares_onCallTerminal iter c id))
    | flush ts =>
      by_cases due : tickerDue c.lastFlushUs ts flushPeriodUs = true
      · rw [flushDue, if_pos due]
        exact saves_of_flush iter logging keyed due
      · rw [flushDue, if_neg due]
        exact .inl (still (sheet_flush_early iter due))
    | clear =>
      refine .inl ⟨⟨fun k f tracked => (Option.some_ne_none f tracked.symm).elim, ?_, rfl⟩, fun k untracked => ?_⟩
      · have empty : c.pendingEvents = [] := List.isEmpty_iff.mp careful.1
        change (written ++ []).filterMap snapOf = (written ++ c.pendingEvents).filterMap snapOf
        rw [empty]
      · have absent : c.reg.streams.lookup k = none := AList.lookup_eq_none.mpr untracked
        simp only [taped, liveFigures, absent]
        rfl
    | touchTime ts => exact .inl (still rfl)
    | focus hint => exact .inl (still rfl)
    | search q => exact .inl (still (sheet_setSearch iter c q))
    | takeEvents =>
      refine .inl (loses_of_eq ?_)
      simp only [taped, recorded, record, step, takeEvents, List.append_nil]
    | disableEvlogEmit => exact absurd careful.1 Bool.false_ne_true
    | enableSessionStats => exact .inl (still rfl)
  | turn ts flow payload =>
    exact .inl (still (blind_sheet.addDiagnostics { c with turn := (c.turn.ingest ts flow payload).1 } _))
  | reassembled tcpReasm => exact .inl (still rfl)
  | publish iter limit streamLimit =>
    refine .inl (still (sheet_reg c (live_of_streams ?_)))
    rw [SnapshotCaches.snapshot_registry]

/-! ## The last counters -/

/-- What has been marked is recorded, and so are the last counters of what has left. -/
structure Kept (t : Tape) : Prop where
  logging : t.now.1.emitEvlog = true
  keyed : Keyed (taped t.now)
  marked : ∀ k f, t.marks k = some f → lastSnap k (recorded t.now) = some f
  current : ∀ k f, liveFigures t.now.1.reg k = some f → t.last k = some f
  left : ∀ k f, liveFigures t.now.1.reg k = none → t.last k = some f → lastSnap k (recorded t.now) = some f

/-- The counters of a stream that is no longer tracked are those it had before. -/
theorem last_next {t : Tape} {act : Act} {k : StreamKey} {f : Figures} (seen : (t.next act).last k = some f)
    (gone : liveFigures (t.next act).now.1.reg k = none) : t.last k = some f := by
  change (liveFigures (record t.now act).1.reg k).or (t.last k) = some f at seen
  change liveFigures (record t.now act).1.reg k = none at gone
  rwa [gone, Option.none_or] at seen

theorem current_next {t : Tape} {act : Act} {k : StreamKey} {f : Figures}
    (tracked : liveFigures (t.next act).now.1.reg k = some f) : (t.next act).last k = some f := by
  change liveFigures (record t.now act).1.reg k = some f at tracked
  change (liveFigures (record t.now act).1.reg k).or (t.last k) = some f
  rw [tracked, Option.some_or]

theorem kept_saves {t : Tape} {act : Act} (kept : Kept t) (due : flushDue t.now.1 act = true)
    (saves : Saves (taped t.now) (taped (record t.now act))) : Kept (t.next act) where
  logging := saves.logging.trans kept.logging
  keyed k f tracked := kept.keyed k f (saves.live k f tracked)
  marked k f marked := by
    have marks : (t.next act).marks = liveFigures t.now.1.reg := if_pos due
    rw [marks] at marked
    exact saves.saved k f marked
  current _ _ := current_next
  left k f gone seen := by
    have before := last_next seen gone
    cases tracked : liveFigures t.now.1.reg k with
    | some g =>
      obtain rfl := Option.some.inj ((kept.current k g tracked).symm.trans before)
      exact saves.saved k g tracked
    | none => exact (saves.others k tracked).trans (kept.left k f tracked before)

theorem kept_loses {t : Tape} {act : Act} (kept : Kept t) (careful : t.Careful act)
    (early : ¬ flushDue t.now.1 act = true)
    (loses : Loses (takenBy t.now.1 act) (taped t.now) (taped (record t.now act))) : Kept (t.next act) := by
  have marks : (t.next act).marks = t.marks := if_neg early
  have same : ∀ k, lastSnap k (recorded (t.next act).now) = lastSnap k (recorded t.now) := fun k =>
    congrArg (lastOf k) loses.drops.snaps
  constructor
  · exact loses.drops.logging.trans kept.logging
  · exact fun k f tracked => kept.keyed k f (loses.drops.live k f tracked)
  · intro k f marked
    rw [marks] at marked
    exact (same k).trans (kept.marked k f marked)
  · exact fun _ _ => current_next
  · intro k f gone seen
    rw [same]
    have before := last_next seen gone
    cases tracked : liveFigures t.now.1.reg k with
    | some g =>
      obtain rfl := Option.some.inj ((kept.current k g tracked).symm.trans before)
      -- A stream that leaves is one the act takes, so it is unmoved.
      by_cases taken : k ∈ takenBy t.now.1 act
      · exact kept.marked k g ((careful.2 k taken).marked tracked)
      · have stays : liveFigures (t.next act).now.1.reg k = some g := (loses.spared k taken).trans tracked
        rw [gone] at stays
        cases stays
    | none => exact kept.left k f tracked before

theorem kept_counts {t : Tape} {act : Act} (kept : Kept t) (early : ¬ flushDue t.now.1 act = true) {f : Figures}
    (counts : taped (record t.now act) = counted (taped t.now) f) : Kept (t.next act) := by
  have marks : (t.next act).marks = t.marks := if_neg early
  have live : ∀ k, liveFigures (t.next act).now.1.reg k =
      if k = f.key then some f else liveFigures t.now.1.reg k := fun k =>
    (congrFun (congrArg Sheet.live counts) k).trans (Function.update_apply _ _ _ k)
  have same : ∀ k, lastSnap k (recorded (t.next act).now) = lastSnap k (recorded t.now) := fun k =>
    congrArg (lastOf k) (congrArg Sheet.snaps counts)
  constructor
  · exact (congrArg Sheet.logging counts).trans kept.logging
  · intro k g tracked
    have here : liveFigures (t.next act).now.1.reg k = some g := tracked
    rw [live] at here
    split at here
    · next own => rw [← Option.some.inj here, own]
    · exact kept.keyed k g here
  · intro k g marked
    rw [marks] at marked
    exact (same k).trans (kept.marked k g marked)
  · exact fun _ _ => current_next
  · intro k g gone seen
    have before := last_next seen gone
    rw [live] at gone
    split at gone
    · cases gone
    · exact (same k).trans (kept.left k g gone before)

theorem kept_next {t : Tape} (act : Act) (careful : t.Careful act) (kept : Kept t) : Kept (t.next act) := by
  have moved := taped_record act careful kept.logging kept.keyed
  by_cases due : flushDue t.now.1 act = true
  · rw [if_pos due] at moved
    exact kept_saves kept due moved
  · rw [if_neg due] at moved
    rcases moved with loses | ⟨f, counts⟩
    · exact kept_loses kept careful due loses
    · exact kept_counts kept due counts

theorem kept_blank (iter : Iteration) (config : Config) (source : String) : Kept (.blank iter config source) := by
  constructor
  · rfl
  · exact fun k f tracked => (Option.some_ne_none f tracked.symm).elim
  · exact fun k f marked => (Option.some_ne_none f marked.symm).elim
  · exact fun k f tracked => (Option.some_ne_none f tracked.symm).elim
  · exact fun k f _ seen => (Option.some_ne_none f seen.symm).elim

/-- While what takes a stream away comes when nothing has been counted for it since the last
flush that was due, every stream that has left has its last counters in its last snapshot.
After a closing flush every stream has, where that flush is due or nothing has been counted
since the last one that was. -/
theorem tails_recorded (iter : Iteration) (config : Config) (source : String) (acts : List Act)
    (careful : Run.Along Tape.next Tape.Careful (.blank iter config source) acts) :
    let t := acts.foldl Tape.next (.blank iter config source)
    (∀ k f, liveFigures t.now.1.reg k = none → t.last k = some f → lastSnap k (recorded t.now) = some f) ∧
      ∀ pass ts, (tickerDue t.now.1.lastFlushUs ts flushPeriodUs = true ∨ ∀ k, t.Unmoved k) →
        let closed := t.next (.entry pass (.flush ts))
        ∀ k f, closed.last k = some f → lastSnap k (recorded closed.now) = some f := by
  intro t
  have kept : Kept t :=
    careful.invariant (P := Kept) (fun _ act allowed holds => kept_next act allowed holds)
      (kept_blank iter config source)
  refine ⟨kept.left, fun pass ts closing => ?_⟩
  intro closed k f seen
  have after : Kept closed := kept_next (.entry pass (.flush ts)) ⟨rfl, by simp [takenBy]⟩ kept
  cases tracked : liveFigures closed.now.1.reg k with
  | none => exact after.left k f tracked seen
  | some g =>
    obtain rfl := Option.some.inj ((after.current k g tracked).symm.trans seen)
    by_cases due : tickerDue t.now.1.lastFlushUs ts flushPeriodUs = true
    · have saves : Saves (taped t.now) (taped closed.now) := saves_of_flush pass kept.logging kept.keyed due
      exact saves.saved k g (saves.live k g tracked)
    · have same : taped closed.now = taped t.now := taped_of_sheet (sheet_flush_early pass due)
      have before : liveFigures t.now.1.reg k = some g := (congrFun (congrArg Sheet.live same) k).symm.trans tracked
      have recorded_before := kept.marked k g ((closing.resolve_left due k).marked before)
      exact (congrArg (lastOf k) (congrArg Sheet.snaps same)).trans recorded_before

/-! ## Short captures -/

def offerKey : StreamKey := { flow := ⟨.udp, ⟨.v4 ⟨10, 0, 0, 1⟩, 4000⟩, ⟨.v4 ⟨10, 0, 0, 2⟩, 4000⟩⟩, ssrc := 7 }

/-- A call that is canceled right after a flush that was due, and dropped. -/
def canceledActs : List Act :=
  offerActs ++ [.entry .stored (.flush 3000), .entry .stored (.flush 6000000),
    .entry .stored (.sip (sampleMsg 6000001 true (some .cancel) none "CANCEL" none))]

def canceledTape : Tape := canceledActs.foldl Tape.next (.blank .stored { keepTerminated := false } "eth0")

theorem canceled_recorded : liveFigures canceledTape.now.1.reg offerKey = none ∧
    (canceledTape.last offerKey).map Figures.packets = some 1 ∧
    (lastSnap offerKey (recorded canceledTape.now)).map Figures.packets = some 1 ∧
    ∀ k f, (canceledTape.next (.entry .stored (.flush 12000000))).last k = some f →
      lastSnap k (recorded (canceledTape.next (.entry .stored (.flush 12000000))).now) = some f := by
  obtain ⟨left, closed⟩ := tails_recorded .stored { keepTerminated := false } "eth0" canceledActs (by decide +kernel)
  have gone : liveFigures canceledTape.now.1.reg offerKey = none := by decide +kernel
  have seen : (canceledTape.last offerKey).map Figures.packets = some 1 := by decide +kernel
  obtain ⟨f, last, packets⟩ := Option.map_eq_some_iff.mp seen
  refine ⟨gone, seen, ?_, closed .stored 12000000 (.inl (by decide +kernel))⟩
  have tail : lastSnap offerKey (recorded canceledTape.now) = some f := left offerKey f gone last
  rw [tail, Option.map_some, packets]

/-- A capture of one packet ends before a flush is due: the log has no snapshot. -/
def shortTape : Tape :=
  (offerActs.foldl Tape.next (.blank .stored {} "eth0")).next (.entry .stored (.flush 2000))

theorem short_unrecorded : (shortTape.last offerKey).map Figures.packets = some 1 ∧
    lastSnap offerKey (recorded shortTape.now) = none := by decide +kernel

end Sipmon.Guarantees.MediaTails
