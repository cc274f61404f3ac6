import Sipmon.Guarantees.EventTimes
import Sipmon.Guarantees.FrameMoves
import Sipmon.Guarantees.SnapshotCaches
import Sipmon.Source.Monitor

/-!
# The deeds of a capture session

The pipeline works on its correlator and on the log file by deeds: it takes frames in,
flushes, hands the events over, clears, follows the UI and publishes. Between the deeds
the calls that have ended are latched, and what a deed reports is dated by the capture
clock, which only frames move.
-/
namespace Sipmon.Guarantees.Deeds
open Source Lib Correlator CallTable RegistryIndex EventTimes FrameMoves
open Evlog (Event)

/-! ## Between two frames -/

/-- What holds of the correlator whatever has happened to it. -/
structure Orderly (c : Correlator) : Prop where
  settled : Settled c
  latched : Latched (table c)
  dated : Dated (table c)

theorem orderly_new (iter : Iteration) (config : Config) (source : String) : Orderly (.new iter config source) where
  settled := settled_new iter config source
  latched := by
    intro id call found
    cases found
  dated := by
    intro id call found
    cases found

theorem orderly_of_same {c after : Correlator} (books_same : books after = books c)
    (table_same : table after = table c) (holds : Orderly c) : Orderly after where
  settled := settled_of_books books_same holds.settled
  latched := table_same ▸ holds.latched
  dated := table_same ▸ holds.dated

theorem orderly_step {c : Correlator} (holds : Orderly c) (input : Iteration × Op) : Orderly (c.step input) where
  settled := settled_step c input holds.settled
  latched := by
    rw [table_step holds.settled.drained]
    exact latched_step holds.latched input.2 _
  dated := by
    rw [table_step holds.settled.drained]
    exact dated_step holds.latched holds.dated input.2 _

/-! ## A frame -/

/-- A correlator in a frame of time `ts`: what it has reported since `start`, it has reported at `ts`. -/
structure Busy (ts : UInt64) (start c : Correlator) : Prop where
  orderly : Orderly c
  clock : c.reg.lastUs = some ts
  emits : Emits ts start c

theorem Busy.step {ts : UInt64} {start c : Correlator} (busy : Busy ts start c) (input : Iteration × Op)
    (emits : Emits ts c (c.step input)) : Busy ts start (c.step input) :=
  ⟨orderly_step busy.orderly input, emits.clock busy.clock, busy.emits.trans emits⟩

theorem Busy.same {ts : UInt64} {start c after : Correlator} (busy : Busy ts start c)
    (books_same : books after = books c) (table_same : table after = table c) (emits : Emits ts c after) :
    Busy ts start after :=
  ⟨orderly_of_same books_same table_same busy.orderly, emits.clock busy.clock, busy.emits.trans emits⟩

theorem busy_move {dec : Decoder} {ts : UInt64} {start c : Correlator} {m : Move} (at_ts : m.At dec ts)
    (busy : Busy ts start c) : Busy ts start (m.run c) := by
  cases at_ts with
  | touch iter => exact busy.step (iter, .touchTime ts) (.reg c busy.clock.symm)
  | @sip iter _ _ msg parsed =>
    exact busy.step (iter, .sip msg) (emits_ingestSip iter busy.clock (time_of_parseSip parsed) busy.orderly.dated)
  | rtp iter flow header len encap =>
    exact busy.step (iter, .rtp ts flow header len encap) (emits_ingestRtp c flow header len encap)
  | rtcp iter flow msg => exact busy.step (iter, .rtcp ts flow msg) (emits_ingestRtcp c flow msg)
  | @turn tracker diags times =>
    have moved : Busy ts start { c with turn := tracker } := busy.same rfl rfl (.silent rfl rfl rfl rfl)
    exact moved.same (blind_books.addDiagnostics _ diags) (blind_table.addDiagnostics _ diags)
      (emits_addDiagnostics times _)
  | reassembled tcpReasm =>
    have moved : Busy ts start { c with tcpReasm } := busy.same rfl rfl (.silent rfl rfl rfl rfl)
    exact moved

/-- A frame reports what it reports at its time, which is now the capture time. -/
theorem frame_reports {dec : Decoder} {iters : Nat → Iteration} {fuel : Nat} {ts : UInt64} {c after : Correlator}
    {decoded : Option (Flow5Tuple × L4)} (orderly : Orderly c)
    (returned : c.ingestFrame dec iters fuel ts decoded = some after) :
    Orderly after ∧ after.reg.lastUs = some ts ∧ ∃ evs, Logs c after evs ∧ ∀ ev ∈ evs, ev.tsUs = ts := by
  have touched : Busy ts { c with reg := c.reg.touchTime ts } { c with reg := c.reg.touchTime ts } :=
    ⟨orderly_step orderly (.stored, .touchTime ts), rfl, .refl ts _⟩
  have busy := (moved_ingestFrame returned).invariant (fun _ _ at_ts => busy_move at_ts) touched
  obtain ⟨evs, reports, at_ts⟩ := busy.emits
  exact ⟨busy.orderly, busy.clock, evs, ⟨reports.pending, reports.session, reports.emit⟩, at_ts⟩

/-! ## Deeds -/

/-- What the pipeline does to its correlator and to the log file. -/
inductive Deed where
  | frame (f : Frame)
  /-- A flush for the time of the capture, and one after a batch without frames. -/
  | flush (iter : Iteration)
  | idle (iter : Iteration)
  | take
  | clear
  | focus (hint : Option FocusHint)
  | search (iter : Iteration) (q : Option String)
  | publish (iter : Iteration) (limit streamLimit : Nat)

namespace Deed

def run (s : Session) (held : Correlator × List Event) : Deed → Correlator × List Event
  | .frame f => ((held.1.ingestFrame s.dec f.iters f.fuel f.tsUs f.decoded).getD held.1, held.2)
  | .flush iter => (held.1.maybePeriodicFlush iter (held.1.reg.lastUs.getD 0), held.2)
  | .idle iter => (held.1.maybePeriodicFlush iter 0, held.2)
  | .take => (held.1.takeEvents.2, if s.recording then held.2 ++ held.1.pendingEvents else held.2)
  | .clear => (held.1.clear, held.2)
  | .focus hint => (held.1.setFocus hint, held.2)
  | .search iter q => (held.1.setSearch iter q, held.2)
  | .publish iter limit streamLimit =>
    ({ held.1 with reg := (held.1.reg.snapshotWith iter limit streamLimit).2 }, held.2)

/-- The frame a deed takes in. -/
def frame? : Deed → Option Frame
  | .frame f => some f
  | _ => none

def clears : Deed → Bool
  | .clear => true
  | _ => false

end Deed

/-- The deeds of one action of a thread. -/
def deeds (s : Session) (m : Monitor) : Monitor.Act → List Deed
  | .pipe t =>
    match m.pipe.stage with
    | .quitting => if m.app.shared.quit || t.raised then [.flush t.iter, .take] else []
    | .clearing => if m.app.shared.clear then [.clear] else []
    | .capturing =>
      if (Pipe.ingestAll s.dec m.pipe.corr t.frames).isSome then
        t.frames.map .frame ++
          if t.more then [if t.frames.isEmpty then .idle t.iter else .flush t.iter, .take]
          else if m.pipe.exhausted then [] else [.flush t.iter, .take]
      else []
    | .idling => if s.withTui then [] else [.flush t.iter, .take]
    | .focusing _ _ => [.focus m.app.shared.focus]
    | .searching _ _ => [.search t.iter m.app.shared.search]
    | .storing full _ => [if full then .publish t.iter usizeMax usizeMax else .publish t.iter 500 1000]
    | _ => []
  | _ => []

/-- What the UI does leaves the pipeline and the published snapshot alone. -/
theorem pipe_or_ui (s : Session) (m : Monitor) (act : Monitor.Act) : (∃ t, act = .pipe t) ∨
    (m.step s act).pipe = m.pipe ∧ (m.step s act).snap = m.snap ∧ deeds s m act = [] := by
  cases act with
  | pipe t => exact .inl ⟨t, rfl⟩
  | draw now later =>
    simp only [Monitor.step]
    split
    · exact .inr ⟨rfl, rfl, rfl⟩
    · exact .inr ⟨rfl, rfl, rfl⟩
  | key kind code mods again now exported =>
    simp only [Monitor.step]
    split
    · exact .inr ⟨rfl, rfl, rfl⟩
    · exact .inr ⟨rfl, rfl, rfl⟩
  | leave =>
    simp only [Monitor.step]
    split
    · exact .inr ⟨rfl, rfl, rfl⟩
    · exact .inr ⟨rfl, rfl, rfl⟩

/-- The deeds of a run. -/
def deedsOf (s : Session) (m : Monitor) : List Monitor.Act → List Deed
  | [] => []
  | act :: rest => deeds s m act ++ deedsOf s (m.step s act) rest

/-- The correlator and the log file. -/
def held (m : Monitor) : Correlator × List Event := (m.pipe.corr, m.pipe.written)

theorem foldl_frames (s : Session) {c after : Correlator} {frames : List Frame}
    (returned : Pipe.ingestAll s.dec c frames = some after) (written : List Event) :
    (frames.map Deed.frame).foldl (Deed.run s) (c, written) = (after, written) := by
  induction frames generalizing c with
  | nil =>
    obtain rfl := Option.some.inj returned
    rfl
  | cons f rest ih =>
    obtain ⟨next, now, later⟩ : ∃ next, c.ingestFrame s.dec f.iters f.fuel f.tsUs f.decoded = some next ∧
        Pipe.ingestAll s.dec next rest = some after := Option.bind_eq_some_iff.mp returned
    rw [List.map_cons, List.foldl_cons]
    have first : Deed.run s (c, written) (.frame f) = (next, written) := by simp only [Deed.run, now, Option.getD_some]
    rw [first]
    exact ih later

theorem orderly_publish (iter : Iteration) (limit streamLimit : Nat) {c : Correlator} (holds : Orderly c) :
    Orderly { c with reg := (c.reg.snapshotWith iter limit streamLimit).2 } := by
  rw [SnapshotCaches.snapshot_registry]
  exact orderly_of_same (c := c) rfl rfl holds

theorem orderly_deed (s : Session) (d : Deed) {now : Correlator × List Event} (holds : Orderly now.1) :
    Orderly (d.run s now).1 := by
  cases d with
  | frame f =>
    cases returned : now.1.ingestFrame s.dec f.iters f.fuel f.tsUs f.decoded with
    | none => simpa [Deed.run, returned] using holds
    | some after => simpa [Deed.run, returned] using (frame_reports holds returned).1
  | flush iter => exact orderly_step holds (iter, .flush _)
  | idle iter => exact orderly_step holds (iter, .flush 0)
  | take => exact orderly_step holds (.stored, .takeEvents)
  | clear => exact orderly_step holds (.stored, .clear)
  | focus hint => exact orderly_step holds (.stored, .focus hint)
  | search iter q => exact orderly_step holds (iter, .search q)
  | publish iter limit streamLimit => exact orderly_publish iter limit streamLimit holds

theorem orderly_deeds (s : Session) (ds : List Deed) {now : Correlator × List Event} (holds : Orderly now.1) :
    Orderly (ds.foldl (Deed.run s) now).1 :=
  Run.invariant (P := fun now : Correlator × List Event => Orderly now.1) (fun _ d kept => orderly_deed s d kept)
    ds holds

/-- The capture time after a batch is that of its last frame. -/
theorem lastUs_ingestAll (s : Session) {c after : Correlator} (holds : Orderly c) {frames : List Frame}
    (returned : Pipe.ingestAll s.dec c frames = some after) {f : Frame} (last : frames.getLast? = some f) :
    after.reg.lastUs = some f.tsUs := by
  obtain ⟨before, rfl⟩ := List.getLast?_eq_some_iff.mp last
  have split : Pipe.ingestAll s.dec c (before ++ [f]) =
      (Pipe.ingestAll s.dec c before).bind fun mid => mid.ingestFrame s.dec f.iters f.fuel f.tsUs f.decoded := by
    simp [Pipe.ingestAll, List.foldlM_append]
  rw [split] at returned
  obtain ⟨mid, early, late⟩ := Option.bind_eq_some_iff.mp returned
  have kept : Orderly mid := by
    have fed : Orderly ((before.map Deed.frame).foldl (Deed.run s) (c, [])).1 := orderly_deeds s _ holds
    rwa [foldl_frames s early] at fed
  exact (frame_reports kept late).2.1

theorem held_drain (s : Session) (iter : Iteration) (pipe : Pipe) (tsUs : UInt64) :
    ((pipe.drain s iter tsUs).corr, (pipe.drain s iter tsUs).written) =
      Deed.run s (pipe.corr.maybePeriodicFlush iter tsUs, pipe.written) .take := rfl

theorem held_finish (s : Session) (m : Monitor) (iter : Iteration) :
    ((m.pipe.finish s iter).corr, (m.pipe.finish s iter).written) =
      [Deed.flush iter, .take].foldl (Deed.run s) (held m) := rfl

theorem held_goOn (pipe : Pipe) (onward : Onward) :
    ((pipe.goOn onward).corr, (pipe.goOn onward).written) = (pipe.corr, pipe.written) := by
  cases onward <;> rfl

theorem held_snapshot (s : Session) (pipe : Pipe) (iter : Iteration) (full : Bool) :
    ((pipe.snapshot iter full).2.corr, (pipe.snapshot iter full).2.written) =
      Deed.run s (pipe.corr, pipe.written)
        (if full then .publish iter usizeMax usizeMax else .publish iter 500 1000) := by
  cases full <;> rfl

theorem held_capture (s : Session) (m : Monitor) (t : Turn) (holds : Orderly m.pipe.corr)
    (capturing : m.pipe.stage = .capturing) :
    ((m.pipe.capture s t).corr, (m.pipe.capture s t).written) =
      (deeds s m (.pipe t)).foldl (Deed.run s) (held m) := by
  simp only [deeds, capturing]
  unfold Pipe.capture
  cases returned : Pipe.ingestAll s.dec m.pipe.corr t.frames with
  | none => rfl
  | some corr =>
    dsimp only [Option.isSome_some]
    rw [if_pos rfl, List.foldl_append, held, foldl_frames s returned]
    split
    · rw [held_drain]
      cases last : t.frames.getLast? with
      | none =>
        obtain none_taken := List.getLast?_eq_none_iff.mp last
        simp only [none_taken]
        rfl
      | some f =>
        have some_taken : t.frames.isEmpty = false := by
          cases frames : t.frames with
          | nil => simp [frames] at last
          | cons _ _ => rfl
        simp only [some_taken, Bool.false_eq_true, if_false, List.foldl_cons, List.foldl_nil]
        simp only [Deed.run, lastUs_ingestAll s holds returned last, Option.map_some, Option.getD_some]
    · split
      · rfl
      · rfl

theorem held_step (s : Session) {m : Monitor} (act : Monitor.Act) (holds : Orderly m.pipe.corr) :
    held (m.step s act) = (deeds s m act).foldl (Deed.run s) (held m) := by
  rcases pipe_or_ui s m act with ⟨t, rfl⟩ | ⟨pipe, -, idle⟩
  · change held (m.pipeStep s t) = _
    cases stage : m.pipe.stage with
    | quitting =>
      simp only [Monitor.pipeStep, deeds, stage]
      split
      · exact held_finish s m t.iter
      · rfl
    | clearing =>
      simp only [Monitor.pipeStep, deeds, stage]
      split <;> rfl
    | capturing =>
      rw [← held_capture s m t holds stage]
      simp only [Monitor.pipeStep, stage, held]
    | idling =>
      simp only [Monitor.pipeStep, deeds, stage]
      split
      · rfl
      · exact held_finish s m t.iter
    | storing full onward =>
      simp only [Monitor.pipeStep, deeds, stage, held, held_goOn]
      exact held_snapshot s m.pipe t.iter full
    | pausing | idleSearch focus | due | dueSearch focus | focusing full onward | searching full onward | ended =>
      simp only [Monitor.pipeStep, deeds, stage]
      rfl
  · rw [idle, held, pipe]
    rfl

theorem orderly_monitor (s : Session) {m : Monitor} (act : Monitor.Act) (holds : Orderly m.pipe.corr) :
    Orderly (m.step s act).pipe.corr := by
  have moved : Orderly (held (m.step s act)).1 := by
    rw [held_step s act holds]
    exact orderly_deeds s _ holds
  exact moved

theorem held_run (s : Session) {m : Monitor} (acts : List Monitor.Act) (holds : Orderly m.pipe.corr) :
    held (m.run s acts) = (deedsOf s m acts).foldl (Deed.run s) (held m) := by
  induction acts generalizing m with
  | nil => rfl
  | cons act rest ih =>
    rw [deedsOf, List.foldl_append, ← held_step s act holds]
    exact ih (orderly_monitor s act holds)

/-! ## What a deed reports -/

/-- A deed that neither hands the events over nor clears: it reports at the capture time,
which only a frame moves. -/
structure Adds (d : Deed) (now after : Correlator × List Event) (evs : List Event) : Prop where
  logs : Logs now.1 after.1 evs
  written : after.2 = now.2
  times : ∀ ev ∈ evs, after.1.reg.lastUs = some ev.tsUs
  clock : after.1.reg.lastUs = now.1.reg.lastUs ∨ ∃ f, d.frame? = some f ∧ after.1.reg.lastUs = some f.tsUs

theorem adds_silent {d : Deed} {now after : Correlator × List Event} (logs : Logs now.1 after.1 [])
    (written : after.2 = now.2) (clock : after.1.reg.lastUs = now.1.reg.lastUs) : Adds d now after [] where
  logs := logs
  written := written
  times := by simp
  clock := .inl clock

theorem adds_frame (s : Session) (f : Frame) {now : Correlator × List Event} (holds : Orderly now.1) :
    ∃ evs, Adds (.frame f) now ((Deed.frame f).run s now) evs := by
  cases returned : now.1.ingestFrame s.dec f.iters f.fuel f.tsUs f.decoded with
  | none =>
    have same : (Deed.frame f).run s now = now := by simp [Deed.run, returned]
    rw [same]
    exact ⟨[], adds_silent (.silent rfl rfl rfl) rfl rfl⟩
  | some after =>
    have moved : (Deed.frame f).run s now = (after, now.2) := by simp [Deed.run, returned]
    obtain ⟨-, clock, evs, logs, at_ts⟩ := frame_reports holds returned
    rw [moved]
    refine ⟨evs, logs, rfl, fun ev member => ?_, .inr ⟨f, rfl, clock⟩⟩
    rw [at_ts ev member]
    exact clock

theorem adds_flush (s : Session) (iter : Iteration) (now : Correlator × List Event) :
    ∃ evs, Adds (.flush iter) now ((Deed.flush iter).run s now) evs := by
  cases clock : now.1.reg.lastUs with
  | none =>
    have idle := reports_idleFlush iter now.1
    have flushed : (Deed.flush iter).run s now = (now.1.maybePeriodicFlush iter 0, now.2) := by
      simp [Deed.run, clock]
    rw [flushed]
    exact ⟨[], adds_silent idle.toLogs rfl idle.lastUs⟩
  | some ts =>
    obtain ⟨evs, reports, at_ts⟩ := emits_flush ts iter now.1
    have flushed : (Deed.flush iter).run s now = (now.1.maybePeriodicFlush iter ts, now.2) := by
      simp [Deed.run, clock]
    rw [flushed]
    refine ⟨evs, reports.toLogs, rfl, fun ev member => ?_, .inl reports.lastUs⟩
    rw [at_ts ev member]
    exact reports.lastUs.trans clock

/-- Besides handing the events over and clearing, every deed adds to what is reported. -/
theorem deed_adds (s : Session) (d : Deed) {now : Correlator × List Event} (holds : Orderly now.1)
    (not_take : d ≠ .take) (not_clear : d ≠ .clear) : ∃ evs, Adds d now (d.run s now) evs := by
  cases d with
  | frame f => exact adds_frame s f holds
  | flush iter => exact adds_flush s iter now
  | idle iter =>
    have idle := reports_idleFlush iter now.1
    exact ⟨[], adds_silent idle.toLogs rfl idle.lastUs⟩
  | take => exact absurd rfl not_take
  | clear => exact absurd rfl not_clear
  | focus hint => exact ⟨[], adds_silent (.silent rfl rfl rfl) rfl rfl⟩
  | search iter q =>
    have same : (now.1.reg.setSearchHint iter q).lastUs = now.1.reg.lastUs := by
      unfold Registry.setSearchHint Registry.refreshSearchMatches
      dsimp only
      split
      · rfl
      · split <;> rfl
    exact ⟨[], adds_silent (.silent rfl rfl rfl) rfl same⟩
  | publish iter limit streamLimit =>
    have same : (now.1.reg.snapshotWith iter limit streamLimit).2.lastUs = now.1.reg.lastUs := by
      rw [SnapshotCaches.snapshot_registry]
    exact ⟨[], adds_silent (.silent rfl rfl rfl) rfl same⟩

end Sipmon.Guarantees.Deeds
