import Sipmon.Guarantees.Deeds
import Sipmon.Guarantees.StatsAgreement

/-!
# What a capture session records

Whatever the threads do, the log file and the report printed on exit are handed the same
events. The log is in order of time when the frames are, and a session recorded to its
end leaves a file that tells what its report tells.
-/
namespace Sipmon.Guarantees.Recording
open Source Lib Correlator Deeds EventTimes
open Evlog (Event)

/-! ## The log and the report -/

/-- The events of the log file, and those that wait to be handed over. -/
def logged (now : Correlator × List Event) : List Event := now.2 ++ now.1.pendingEvents

/-- The report knows what was reported after `before`. -/
structure Accounts (before : List Event) (now : Correlator × List Event) : Prop where
  emit : now.1.emitEvlog = true
  known : ∃ evs, now.1.sessionStats = some evs ∧ logged now = before ++ evs

theorem logged_adds {d : Deed} {now after : Correlator × List Event} {evs : List Event}
    (adds : Adds d now after evs) (emit : now.1.emitEvlog = true) : logged after = logged now ++ evs := by
  rw [logged, adds.written, adds.logs.pending, if_pos emit, logged, List.append_assoc]

theorem logged_take {s : Session} (recording : s.recording = true) (now : Correlator × List Event) :
    logged (Deed.take.run s now) = logged now := by
  simp [logged, Deed.run, recording, takeEvents]

theorem accounts_deed {s : Session} (recording : s.recording = true) {d : Deed} (uncleared : d ≠ .clear)
    {before : List Event} {now : Correlator × List Event} (orderly : Orderly now.1)
    (accounts : Accounts before now) : Accounts before (d.run s now) := by
  by_cases take : d = .take
  · subst take
    refine ⟨accounts.emit, ?_⟩
    rw [logged_take recording]
    exact accounts.known
  · obtain ⟨evs, adds⟩ := deed_adds s d orderly take uncleared
    obtain ⟨before_evs, session, all⟩ := accounts.known
    refine ⟨adds.logs.emit.trans accounts.emit, before_evs ++ evs, ?_, ?_⟩
    · rw [adds.logs.session, session, Option.map_some]
    · rw [logged_adds adds accounts.emit, all, List.append_assoc]

/-- After a clear the report starts anew, and nothing waits. -/
theorem accounts_clear (s : Session) {before : List Event} {now : Correlator × List Event}
    (accounts : Accounts before now) : Accounts now.2 (Deed.clear.run s now) := by
  obtain ⟨evs, session, -⟩ := accounts.known
  refine ⟨accounts.emit, [], ?_, ?_⟩
  · simp [Deed.run, clear, session]
  · simp [logged, Deed.run, clear]

/-- The log at the last of the clears among these deeds, if there is one. -/
def LastCleared (s : Session) (ds : List Deed) (now : Correlator × List Event) (first : List Event) : Prop :=
  ∀ early late, ds = early ++ .clear :: late → late.any Deed.clears = false →
    first = (early.foldl (Deed.run s) now).2

theorem accounts_deeds {s : Session} (recording : s.recording = true) (ds : List Deed) {before : List Event}
    {now : Correlator × List Event} (orderly : Orderly now.1) (accounts : Accounts before now) :
    ∃ first, Accounts first (ds.foldl (Deed.run s) now) ∧ (ds.any Deed.clears = false → first = before) ∧
      LastCleared s ds now first := by
  induction ds generalizing now before with
  | nil => exact ⟨before, accounts, fun _ => rfl, fun early late split => by simp at split⟩
  | cons d rest ih =>
    have kept := orderly_deed s d orderly
    by_cases cleared : d = .clear
    · subst cleared
      obtain ⟨first, later, same, pinned⟩ := ih kept (accounts_clear s accounts)
      refine ⟨first, later, by simp [Deed.clears], fun early late split quiet => ?_⟩
      cases early with
      | nil =>
        obtain rfl := (List.cons.inj split).2
        exact same quiet
      | cons e early =>
        obtain ⟨rfl, after⟩ := List.cons.inj split
        exact pinned early late after quiet
    · obtain ⟨first, later, same, pinned⟩ := ih kept (accounts_deed recording cleared orderly accounts)
      refine ⟨first, later, fun none_cleared => same ?_, fun early late split quiet => ?_⟩
      · exact (Bool.or_eq_false_iff.mp none_cleared).2
      · cases early with
        | nil => exact absurd (List.cons.inj split).1 cleared
        | cons e early =>
          obtain ⟨rfl, after⟩ := List.cons.inj split
          exact pinned early late after quiet

/-! ## The order of the log -/

/-- What was reported is in order of time, up to the capture time and to the last frame's. -/
structure InOrder (clock : UInt64) (now : Correlator × List Event) : Prop where
  sorted : ((logged now).map Event.tsUs).Pairwise (· ≤ ·)
  bounded : ∀ ev ∈ logged now, ev.tsUs ≤ clock
  current : ∀ ts, now.1.reg.lastUs = some ts → ts ≤ clock ∧ ∀ ev ∈ logged now, ev.tsUs ≤ ts

theorem inOrder_sublist {clock : UInt64} {now after : Correlator × List Event} (order : InOrder clock now)
    (fewer : (logged after).Sublist (logged now))
    (lastUs : ∀ ts, after.1.reg.lastUs = some ts → now.1.reg.lastUs = some ts) : InOrder clock after where
  sorted := order.sorted.sublist (fewer.map _)
  bounded ev member := order.bounded ev (fewer.subset member)
  current ts known :=
    ⟨(order.current ts (lastUs ts known)).1, fun ev member =>
      (order.current ts (lastUs ts known)).2 ev (fewer.subset member)⟩

theorem inOrder_mono {clock last : UInt64} {now : Correlator × List Event} (order : InOrder clock now)
    (later : clock ≤ last) : InOrder last now where
  sorted := order.sorted
  bounded ev member := UInt64.le_trans (order.bounded ev member) later
  current ts known := ⟨UInt64.le_trans (order.current ts known).1 later, (order.current ts known).2⟩

/-- Events of one time, which is not before any other, come at the end. -/
theorem inOrder_append {clock ts : UInt64} {now after : Correlator × List Event} {evs : List Event}
    (order : InOrder clock now) (grown : (logged after).Sublist (logged now ++ evs))
    (at_ts : ∀ ev ∈ evs, ev.tsUs = ts) (latest : ∀ ev ∈ logged now, ev.tsUs ≤ ts)
    {last : UInt64} (passed : ts ≤ last) (lastUs : after.1.reg.lastUs = some ts) : InOrder last after := by
  have all : ∀ ev ∈ logged after, ev.tsUs ≤ ts := by
    intro ev member
    rcases List.mem_append.mp (grown.subset member) with early | late
    · exact latest ev early
    · exact at_ts ev late ▸ UInt64.le_refl _
  have together : (evs.map Event.tsUs).Pairwise (· ≤ ·) := by
    rw [List.pairwise_map]
    apply List.pairwise_of_forall_mem_list
    intro a first b second
    rw [at_ts a first, at_ts b second]
    exact UInt64.le_refl _
  have sorted : ((logged now ++ evs).map Event.tsUs).Pairwise (· ≤ ·) := by
    rw [List.map_append, List.pairwise_append]
    refine ⟨order.sorted, together, fun a early b late => ?_⟩
    obtain ⟨x, x_early, rfl⟩ := List.mem_map.mp early
    obtain ⟨y, y_late, rfl⟩ := List.mem_map.mp late
    rw [at_ts y y_late]
    exact latest x x_early
  constructor
  · exact sorted.sublist (grown.map _)
  · exact fun ev member => UInt64.le_trans (all ev member) passed
  · intro t known
    obtain rfl := Option.some.inj (lastUs.symm.trans known)
    exact ⟨passed, all⟩

theorem logged_grows {d : Deed} {now after : Correlator × List Event} {evs : List Event}
    (adds : Adds d now after evs) : (logged after).Sublist (logged now ++ evs) := by
  rw [logged, adds.written, adds.logs.pending, logged, List.append_assoc]
  apply List.Sublist.append_left
  split
  · exact .refl _
  · exact List.sublist_append_left ..

theorem inOrder_deed (s : Session) (d : Deed) {clock : UInt64} {now : Correlator × List Event}
    (orderly : Orderly now.1) (order : InOrder clock now)
    (later : ∀ f, d.frame? = some f → clock ≤ f.tsUs) :
    InOrder ((d.frame?.map Frame.tsUs).getD clock) (d.run s now) := by
  by_cases take : d = .take
  · subst take
    apply inOrder_sublist order
    · simp only [logged, Deed.run, takeEvents, List.append_nil]
      split
      · exact .refl _
      · exact List.sublist_append_left ..
    · exact fun ts known => known
  by_cases cleared : d = .clear
  · subst cleared
    apply inOrder_sublist order
    · simp only [logged, Deed.run, clear, List.append_nil]
      exact List.sublist_append_left ..
    · intro ts known
      cases known
  obtain ⟨evs, adds⟩ := deed_adds s d orderly take cleared
  have onward : clock ≤ (d.frame?.map Frame.tsUs).getD clock := by
    cases framed : d.frame? with
    | none => exact UInt64.le_refl _
    | some f => exact later f framed
  have dated : ∀ {ts}, (d.run s now).1.reg.lastUs = some ts → ∀ ev ∈ evs, ev.tsUs = ts := fun known ev member =>
    Option.some.inj ((adds.times ev member).symm.trans known)
  rcases adds.clock with same | ⟨f, framed, moved⟩
  · cases known : now.1.reg.lastUs with
    | none =>
      rw [known] at same
      have none_added : evs = [] := by
        apply List.eq_nil_iff_forall_not_mem.mpr
        intro ev member
        have stamped := adds.times ev member
        rw [same] at stamped
        cases stamped
      apply inOrder_mono _ onward
      apply inOrder_sublist order
      · simpa [none_added] using logged_grows adds
      · intro ts stamped
        rw [same] at stamped
        cases stamped
    | some ts =>
      rw [known] at same
      have passed := UInt64.le_trans (order.current ts known).1 onward
      exact inOrder_append order (logged_grows adds) (dated same) (order.current ts known).2 passed same
  · have latest : ∀ ev ∈ logged now, ev.tsUs ≤ f.tsUs := fun ev member =>
      UInt64.le_trans (order.bounded ev member) (later f framed)
    rw [framed]
    exact inOrder_append order (logged_grows adds) (dated moved) latest (UInt64.le_refl _) moved

theorem inOrder_deeds (s : Session) (ds : List Deed) {clock : UInt64} {now : Correlator × List Event}
    (orderly : Orderly now.1) (order : InOrder clock now)
    (forward : (clock :: (ds.filterMap Deed.frame?).map Frame.tsUs).Pairwise (· ≤ ·)) :
    ∃ last, InOrder last (ds.foldl (Deed.run s) now) := by
  induction ds generalizing now clock with
  | nil => exact ⟨clock, order⟩
  | cons d rest ih =>
    have kept := orderly_deed s d orderly
    cases framed : d.frame? with
    | none =>
      have next := inOrder_deed s d orderly order (by simp [framed])
      rw [framed] at next
      rw [List.filterMap_cons_none framed] at forward
      exact ih kept next forward
    | some f =>
      rw [List.filterMap_cons_some framed, List.map_cons, List.pairwise_cons] at forward
      have next := inOrder_deed s d orderly order (by
        intro g is
        obtain rfl := Option.some.inj (framed.symm.trans is)
        exact forward.1 f.tsUs List.mem_cons_self)
      rw [framed] at next
      exact ih kept next forward.2

/-! ## Sessions -/

/-- The pipeline has left its loop. -/
def leaving : Stage → Bool
  | .focusing _ .finish | .searching _ .finish | .storing _ .finish | .ended => true
  | _ => false

/-- Nothing waits once the loop is left. -/
def Drained (m : Monitor) : Prop := leaving m.pipe.stage = true → m.pipe.corr.pendingEvents = []

theorem drained_step (s : Session) {m : Monitor} (act : Monitor.Act) (drained : Drained m) :
    Drained (m.step s act) := by
  rcases pipe_or_ui s m act with ⟨t, rfl⟩ | ⟨pipe, -⟩
  · change Drained (m.pipeStep s t)
    unfold Drained at drained ⊢
    cases stage : m.pipe.stage with
    | quitting =>
      simp only [Monitor.pipeStep, stage]
      split
      · exact fun _ => rfl
      · simp [leaving]
    | idling =>
      simp only [Monitor.pipeStep, stage]
      split
      · simp [leaving]
      · exact fun _ => rfl
    | capturing =>
      simp only [Monitor.pipeStep, stage, Pipe.capture]
      split
      · simp [stage, leaving]
      · split
        · split <;> simp [leaving]
        · split <;> simp [leaving]
    | pausing =>
      simp only [Monitor.pipeStep, stage]
      split <;> simp [leaving]
    | clearing =>
      simp only [Monitor.pipeStep, stage]
      split <;> simp [leaving]
    | idleSearch focus | dueSearch focus =>
      simp only [Monitor.pipeStep, stage]
      split <;> simp [leaving]
    | due => simp [Monitor.pipeStep, stage, leaving]
    | focusing full onward =>
      rw [stage] at drained
      simp only [Monitor.pipeStep, stage]
      cases onward <;> simp_all [leaving, setFocus]
    | searching full onward =>
      rw [stage] at drained
      simp only [Monitor.pipeStep, stage]
      cases onward <;> simp_all [leaving, setSearch]
    | storing full onward =>
      rw [stage] at drained
      simp only [Monitor.pipeStep, stage]
      cases onward <;> simp_all [leaving, Pipe.goOn, Pipe.snapshot]
    | ended =>
      rw [stage] at drained
      simpa only [Monitor.pipeStep, stage] using drained
  · rw [Drained, pipe]
    exact drained

theorem drained_run (s : Session) (acts : List Monitor.Act) {m : Monitor} (drained : Drained m) :
    Drained (m.run s acts) := Run.invariant (fun _ act kept => drained_step s act kept) acts drained

theorem orderly_start (iter : Iteration) (s : Session) : Orderly (Monitor.start iter s).pipe.corr := by
  unfold Monitor.start
  dsimp only
  split
  · exact orderly_step (orderly_new iter _ _) (.stored, .enableSessionStats)
  · exact orderly_new iter _ _

/-- Whether the session ends with a report. -/
def reports (s : Session) : Bool := s.withTui || s.printStats

theorem accounts_start (iter : Iteration) {s : Session} (asked : reports s = true) :
    Accounts [] (held (Monitor.start iter s)) := by
  unfold reports at asked
  refine ⟨?_, [], ?_, ?_⟩
  · simp only [held, Monitor.start, if_pos asked]
    rfl
  · simp only [held, Monitor.start, if_pos asked]
    rfl
  · simp only [logged, held, Monitor.start, if_pos asked]
    rfl

theorem inOrder_start (iter : Iteration) (s : Session) : InOrder 0 (held (Monitor.start iter s)) := by
  have none_logged : logged (held (Monitor.start iter s)) = [] := by
    unfold Monitor.start
    dsimp only
    split <;> rfl
  have unset : (Monitor.start iter s).pipe.corr.reg.lastUs = none := by
    unfold Monitor.start
    dsimp only
    split <;> rfl
  constructor
  · simp [none_logged]
  · simp [none_logged]
  · intro ts known
    rw [held, unset] at known
    cases known

/-- The frames a run takes in. -/
def framesOf (s : Session) (m : Monitor) (acts : List Monitor.Act) : List Frame :=
  (deedsOf s m acts).filterMap Deed.frame?

variable (iter : Iteration) {s : Session} (acts : List Monitor.Act)

theorem accounts_run (recording : s.recording = true) (asked : reports s = true) :
    ∃ before, Accounts before (held ((Monitor.start iter s).run s acts)) ∧
      ((deedsOf s (.start iter s) acts).any Deed.clears = false → before = []) ∧
      LastCleared s (deedsOf s (.start iter s) acts) (held (.start iter s)) before := by
  have orderly := orderly_start iter s
  rw [held_run s acts orderly]
  exact accounts_deeds recording (deedsOf s (.start iter s) acts) orderly (accounts_start iter asked)

theorem drained_start : Drained ((Monitor.start iter s).run s acts) := by
  apply drained_run s acts
  intro leaves
  cases leaves

/-- However the threads interleave, the log file and the events that wait for it hold what
the report counts, in order and once each, after what the file held at the last clear; and
nothing waits any more once the pipeline has left its loop. -/
theorem nothing_lost (recording : s.recording = true) (asked : reports s = true) :
    ∃ before evs, ((Monitor.start iter s).run s acts).pipe.corr.sessionStats = some evs ∧
      ((Monitor.start iter s).run s acts).pipe.written ++
        ((Monitor.start iter s).run s acts).pipe.corr.pendingEvents = before ++ evs ∧
      ((deedsOf s (.start iter s) acts).any Deed.clears = false → before = []) ∧
      LastCleared s (deedsOf s (.start iter s) acts) (held (.start iter s)) before ∧
      (leaving ((Monitor.start iter s).run s acts).pipe.stage = true →
        ((Monitor.start iter s).run s acts).pipe.corr.pendingEvents = []) := by
  obtain ⟨before, accounts, uncleared, pinned⟩ := accounts_run iter acts recording asked
  obtain ⟨evs, session, all⟩ := accounts.known
  exact ⟨before, evs, session, all, uncleared, pinned, drained_start iter acts⟩

/-- The log is in order of time at every moment when the captured frames are. -/
theorem sorted_written
    (forward : ((framesOf s (.start iter s) acts).map Frame.tsUs).Pairwise (· ≤ ·)) :
    (((Monitor.start iter s).run s acts).pipe.written.map Event.tsUs).Pairwise (· ≤ ·) := by
  have orderly := orderly_start iter s
  have ordered : (0 :: (framesOf s (.start iter s) acts).map Frame.tsUs).Pairwise (· ≤ ·) :=
    List.pairwise_cons.mpr ⟨fun _ _ => UInt64.zero_le, forward⟩
  obtain ⟨last, order⟩ := inOrder_deeds s _ orderly (inOrder_start iter s) ordered
  rw [← held_run s acts orderly] at order
  have sorted := order.sorted
  rw [logged, List.map_append] at sorted
  exact (List.pairwise_append.mp sorted).1

/-- A session that was not cleared leaves a file that scans to the report printed on its
exit, however its threads interleaved, as long as the frames came in order of time. -/
theorem recorded_file_reports (tz : Int32) (recording : s.recording = true) (asked : reports s = true)
    (ended : ((Monitor.start iter s).run s acts).pipe.stage = .ended)
    (forward : ((framesOf s (.start iter s) acts).map Frame.tsUs).Pairwise (· ≤ ·))
    (uncleared : (deedsOf s (.start iter s) acts).any Deed.clears = false)
    (fits : ∀ ev ∈ ((Monitor.start iter s).run s acts).pipe.written,
      (Evlog.payloadOf ev).length ≤ Evlog.maxRecordLen) :
    ((Monitor.start iter s).run s acts).report.map (·.foldl StatsAcc.ingest {}) =
      some (StatsAcc.scanRecords
        (.new (Evlog.sessionImage tz ((Monitor.start iter s).run s acts).pipe.written))) := by
  obtain ⟨before, accounts, none_before, -⟩ := accounts_run iter acts recording asked
  obtain ⟨evs, session, all⟩ := accounts.known
  have nothing : ((Monitor.start iter s).run s acts).pipe.corr.pendingEvents = [] :=
    drained_start iter acts (by rw [ended]; rfl)
  have written : ((Monitor.start iter s).run s acts).pipe.written = evs := by
    rw [logged, held, nothing, List.append_nil, none_before uncleared, List.nil_append] at all
    exact all
  have report : ((Monitor.start iter s).run s acts).report = some evs := by
    rw [Monitor.report, if_pos ended]
    exact session
  rw [StatsAgreement.scan_sorted tz (sorted_written iter acts forward) fits, report, written, Option.map_some]

/-! ## A recording of two messages -/

/-- An INVITE of the call `c1`. -/
def wireParser : SipParser := fun _ =>
  some { start := .request .invite, callId := some "c1", cseq := some "1 INVITE", topVia := none
         fromValue := none, toValue := none, contact := none
         contentType := none, compactType := none, routes := 0, recordRoutes := 0 }

def wire : Session where
  dec := { noMedia := false, rawTruncate := none, parseMessage := wireParser }
  config := {}
  name := "eth0"
  withTui := false
  quiet := false
  printStats := true
  recording := true
  widget _ selected := selected

def wireFrame (tsUs : UInt64) : Frame where
  tsUs := tsUs
  decoded := some (⟨.udp, ⟨.v4 ⟨8, 8, 8, 8⟩, 5060⟩, ⟨.v4 ⟨10, 0, 0, 2⟩, 5060⟩⟩,
    .udp "INVITE sip:b SIP/2.0".toUTF8.toList)
  iters _ := .stored
  fuel := 0

def reads (frames : List Frame) : Turn where
  iter := .stored
  raised := false
  frames := frames
  more := !frames.isEmpty
  elapsed := false

/-- One batch, then the end of the capture. -/
def wireActs : List Monitor.Act :=
  (List.replicate 3 (reads []) ++ reads [wireFrame 1000, wireFrame 2000] :: List.replicate 11 (reads [])).map .pipe

theorem nothing_lost_wire :
    ∃ before evs, ((Monitor.start .stored wire).run wire wireActs).pipe.corr.sessionStats = some evs ∧
      ((Monitor.start .stored wire).run wire wireActs).pipe.written ++
        ((Monitor.start .stored wire).run wire wireActs).pipe.corr.pendingEvents = before ++ evs ∧
      ((deedsOf wire (.start .stored wire) wireActs).any Deed.clears = false → before = []) ∧
      LastCleared wire (deedsOf wire (.start .stored wire) wireActs) (held (.start .stored wire)) before ∧
      (leaving ((Monitor.start .stored wire).run wire wireActs).pipe.stage = true →
        ((Monitor.start .stored wire).run wire wireActs).pipe.corr.pendingEvents = []) :=
  nothing_lost .stored wireActs rfl rfl

theorem recorded_file_reports_wire :
    ((Monitor.start .stored wire).run wire wireActs).report.map (·.foldl StatsAcc.ingest {}) =
      some (StatsAcc.scanRecords
        (.new (Evlog.sessionImage 3600 ((Monitor.start .stored wire).run wire wireActs).pipe.written))) :=
  recorded_file_reports .stored wireActs 3600 rfl rfl (by decide +kernel) (by decide +kernel) (by decide +kernel)
    (by decide +kernel)

end Sipmon.Guarantees.Recording
