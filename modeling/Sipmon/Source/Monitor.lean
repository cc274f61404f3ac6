import Sipmon.Source.App
import Sipmon.Source.Frame

/-!
# A capture session (`src/main.rs:584-811`)

The pipeline thread and the UI thread of `run_capture_loop`. They share the cells of
`Shared` and the published snapshot. `step` is one action of one of the threads: the UI
draws a frame, handles a key or has returned from its loop; the pipeline runs up to its
next access of a shared cell. What the log file was handed is the list of events;
writing it is taken to succeed.
-/
namespace Sipmon.Source
open Lib (Iteration)
open Evlog (Event)

/-- A captured frame: its time, its decoded headers, and the order in which its passes
visit the hash tables. -/
structure Frame where
  tsUs : UInt64
  decoded : Option (Flow5Tuple × L4)
  iters : Nat → Iteration
  /-- The number of iterations within which the TCP reassembly returns. -/
  fuel : Nat

/-- How the session was started. -/
structure Session where
  dec : Decoder
  config : Config
  name : String
  withTui : Bool
  quiet : Bool
  printStats : Bool
  /-- Whether there is a log file. -/
  recording : Bool
  widget : App.Widget

/-- Where a publication goes on. -/
inductive Onward where
  /-- To the next frames, after a clear. -/
  | capture
  /-- To the idle loop that follows the end of the capture. -/
  | idle
  /-- To the head of the loop; what was published is remembered. -/
  | noted (pkts : Option Nat) (focus : Option FocusHint) (search : Option String)
  /-- To the end of the thread. -/
  | finish
  deriving DecidableEq

/-- Where the pipeline is, in the order of the loop. -/
inductive Stage where
  | quitting | pausing | clearing | capturing
  /-- After the end of the capture: the focus, then the query, against the last publication. -/
  | idling
  | idleSearch (focus : Option FocusHint)
  /-- The same when a publication is due. -/
  | due
  | dueSearch (focus : Option FocusHint)
  /-- `publish`: the focus hint, the pinned query, the snapshot. -/
  | focusing (full : Bool) (onward : Onward)
  | searching (full : Bool) (onward : Onward)
  | storing (full : Bool) (onward : Onward)
  | ended
  deriving DecidableEq

structure Pipe where
  corr : Correlator
  ipStatsCache : IpStatsCache := none
  pktsTotal : Nat := 0
  /-- The events handed to the log file. -/
  written : List Event := []
  exhausted : Bool := false
  lastPubPkts : Nat := 2 ^ 64 - 1
  lastPubFocus : Option FocusHint := some { primary := "\u0000init", linked := none }
  lastPubSearch : Option String := none
  stage : Stage := .quitting

/-- What a step of the pipeline finds outside of the process. -/
structure Turn where
  iter : Iteration
  /-- Whether a signal asks to quit. -/
  raised : Bool
  /-- The frames `next_frame` delivers, and what it returns. -/
  frames : List Frame
  more : Bool
  /-- Whether the time to publish has come. -/
  elapsed : Bool

structure Monitor where
  app : App := {}
  snap : Published := .blank
  pipe : Pipe

namespace Pipe

/-- `maybe_periodic_flush`, then `drain_events_into` and the log file. -/
def drain (s : Session) (iter : Iteration) (pipe : Pipe) (tsUs : UInt64) : Pipe :=
  let (events, corr) := (pipe.corr.maybePeriodicFlush iter tsUs).takeEvents
  { pipe with corr, written := if s.recording then pipe.written ++ events else pipe.written }

/-- The frames of a batch; `none` when the reassembly of one of them does not return. -/
def ingestAll (dec : Decoder) (corr : Correlator) (frames : List Frame) : Option Correlator :=
  frames.foldlM (fun c f => c.ingestFrame dec f.iters f.fuel f.tsUs f.decoded) corr

def lastUs (pipe : Pipe) : UInt64 := pipe.corr.reg.lastUs.getD 0

/-- Leave the loop: flush, drain, and publish everything. -/
def finish (s : Session) (iter : Iteration) (pipe : Pipe) : Pipe :=
  { pipe.drain s iter pipe.lastUs with stage := .focusing true .finish }

/-- `next_frame` and what follows it. -/
def capture (s : Session) (t : Turn) (pipe : Pipe) : Pipe :=
  match ingestAll s.dec pipe.corr t.frames with
  | none => pipe
  | some corr =>
    let pipe := { pipe with corr, pktsTotal := pipe.pktsTotal + t.frames.length }
    if t.more then
      let tsUs := (t.frames.getLast?.map Frame.tsUs).getD 0
      { pipe.drain s t.iter tsUs with stage := if t.elapsed && s.withTui then .due else .quitting }
    else if pipe.exhausted then { pipe with stage := .idling }
    else { { pipe with exhausted := true }.drain s t.iter pipe.lastUs with stage := .focusing true .idle }

def goOn (pipe : Pipe) : Onward → Pipe
  | .capture => { pipe with stage := .capturing }
  | .idle => { pipe with stage := .idling }
  | .noted pkts focus search =>
    { pipe with
      lastPubPkts := pkts.getD pipe.lastPubPkts, lastPubFocus := focus, lastPubSearch := search
      stage := .quitting }
  | .finish => { pipe with stage := .ended }

/-- The snapshot to publish: 500 calls, or everything with the rows of the IP page anew. -/
def snapshot (iter : Iteration) (pipe : Pipe) (full : Bool) : Published × Pipe :=
  let (limit, streamLimit) := if full then (usizeMax, usizeMax) else (500, 1000)
  let (snap, reg, ipStatsCache) := pipe.corr.reg.publishedWith iter pipe.ipStatsCache limit streamLimit
  (if full then { snap with ipStats := pipe.corr.reg.ipstats.rows iter } else snap,
    { pipe with corr := { pipe.corr with reg }, ipStatsCache })

end Pipe

namespace Monitor

/-- `run_capture_loop` before its threads run. A headless recording keeps no ended calls. -/
def start (iter : Iteration) (s : Session) : Monitor :=
  let config := if !s.withTui && s.quiet then { s.config with keepTerminated := false } else s.config
  let corr := Correlator.new iter config s.name
  { pipe := { corr := if s.withTui || s.printStats then corr.enableSessionStats else corr } }

/-- The pipeline thread up to its next access of a shared cell. -/
def pipeStep (s : Session) (m : Monitor) (t : Turn) : Monitor :=
  let pipe := m.pipe
  let shared := m.app.shared
  match pipe.stage with
  | .quitting =>
    let quit := shared.quit || t.raised
    { m with
      app := { m.app with shared.quit := quit }
      pipe := if quit then pipe.finish s t.iter else { pipe with stage := .pausing } }
  | .pausing => { m with pipe := { pipe with stage := if shared.pause then .quitting else .clearing } }
  | .clearing =>
    if shared.clear then
      { m with
        app := { m.app with shared.clear := false }
        pipe := { pipe with
          corr := pipe.corr.clear, ipStatsCache := none, pktsTotal := 0, stage := .focusing false .capture } }
    else { m with pipe := { pipe with stage := .capturing } }
  | .capturing => { m with pipe := pipe.capture s t }
  | .idling =>
    { m with pipe := if s.withTui then { pipe with stage := .idleSearch shared.focus } else pipe.finish s t.iter }
  | .idleSearch focus =>
    let changed := focus ≠ pipe.lastPubFocus ∨ shared.search ≠ pipe.lastPubSearch
    { m with pipe := { pipe with
        stage := if changed then .focusing true (.noted none focus shared.search) else .quitting } }
  | .due => { m with pipe := { pipe with stage := .dueSearch shared.focus } }
  | .dueSearch focus =>
    let changed := pipe.pktsTotal ≠ pipe.lastPubPkts ∨ focus ≠ pipe.lastPubFocus ∨
      shared.search ≠ pipe.lastPubSearch
    { m with pipe := { pipe with
        stage := if changed then .focusing false (.noted (some pipe.pktsTotal) focus shared.search)
          else .quitting } }
  | .focusing full onward =>
    { m with pipe := { pipe with corr := pipe.corr.setFocus shared.focus, stage := .searching full onward } }
  | .searching full onward =>
    { m with pipe := { pipe with
        corr := pipe.corr.setSearch t.iter shared.search, stage := .storing full onward } }
  | .storing full onward =>
    let (snap, pipe) := pipe.snapshot t.iter full
    { m with snap, pipe := pipe.goOn onward }
  | .ended => m

/-- An action of one of the threads. -/
inductive Act where
  | pipe (t : Turn)
  | draw (now later : Nat)
  /-- A key event; `again` is what a second read of the snapshot finds. -/
  | key (kind : KeyEventKind) (code : KeyCode) (mods : KeyModifiers) (again : Published) (now : Nat)
      (exported : Except String String)
  /-- The UI has returned from its loop, and the pipeline is asked to quit. -/
  | leave

/-- Whether the UI thread is in its loop. -/
def uiRuns (s : Session) (m : Monitor) : Bool := s.withTui && !m.app.shouldQuit

def step (s : Session) (m : Monitor) (act : Act) : Monitor :=
  match act with
  | .pipe t => m.pipeStep s t
  | .draw now later => if m.uiRuns s then { m with app := m.app.draw s.widget m.snap now later } else m
  | .key kind code mods again now exported =>
    if m.uiRuns s then
      { m with app := m.app.poll (some { kind, code, mods, reads := { snap := m.snap, again, now, exported } }) }
    else m
  | .leave =>
    if s.withTui && m.app.shouldQuit then { m with app := { m.app with shared.quit := true } } else m

def run (s : Session) (m : Monitor) (acts : List Act) : Monitor := acts.foldl (step s) m

/-- `take_session_stats`: the events of the report printed on exit. -/
def report (m : Monitor) : Option (List Event) :=
  if m.pipe.stage = .ended then m.pipe.corr.sessionStats else none

end Monitor
end Sipmon.Source
