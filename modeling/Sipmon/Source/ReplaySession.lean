import Sipmon.Source.App
import Sipmon.Source.EvStats
import Sipmon.Source.Evlog.Buffers
import Sipmon.Source.Export

/-!
# Replaying an event log (`src/main.rs:859-1083`)

The worker of `run_replay` reads the log record by record and feeds its correlator, while
the UI thread shares the cells of `Shared` and the published snapshot with it. As for a
capture, `step` is one action of one of the threads. A record whose length has no buffer
panics the decoder, which ends the release build with all its threads. The time zone of
the recording, which only the UI shows, is left out.
-/
namespace Sipmon.Source
open Lib (Iteration)
open Lib.ByteReader (Bytes ReadError readByte)
open Evlog

namespace Correlator

/-- The event a summary counts as in the session report. -/
def summaryEvt (tsUs : UInt64) (s : StreamSummary) : StreamSnapEvt :=
  { tsUs, callId := s.callId.getD "", ssrc := s.ssrc, flow := s.flow.getD StatsAcc.unknownFlow, codec := s.codec
    payloadType := s.payloadType, packets := .ofNat s.packets, lost := .ofNat s.lost
    expected := .ofNat s.expected, lossPct := s.lossPct, jitterMs := s.jitterMs, mos := s.mos
    direction := s.direction, bytes := .ofNat s.bytes, firstTsUs := s.firstTsUs, lastTsUs := s.lastTsUs
    rttMinMs := s.rttMinMs, rttAvgMs := s.rttAvgMs, rttMaxMs := s.rttMaxMs, onewayMs := s.onewayMs
    leg := s.leg, viaTurn := s.viaTurn }

/-- The event a round trip counts as. -/
def rttEvt (tsUs : UInt64) (rttMs : F64) : RtcpRttEvt :=
  { tsUs, callId := "", ssrc := 0, rttMs, onewayMs := none }

/-- Feed the session report, if there is one. -/
def feed (c : Correlator) (ev : Event) : Correlator :=
  { c with sessionStats := c.sessionStats.map (· ++ [ev]) }

def replayStreamSummary (c : Correlator) (tsUs : UInt64) (s : StreamSummary) : Correlator :=
  c.feed (.streamSnap (summaryEvt tsUs s))

def replayRttSample (c : Correlator) (tsUs : UInt64) (rttMs : F64) : Correlator :=
  c.feed (.rtcpRtt (rttEvt tsUs rttMs))

/-- The log line of a stream that lost packets. -/
def lossLine (s : StreamSummary) : String :=
  "stream " ++ s.callId.getD "" ++ " ssrc=" ++ hexPrefixed s.ssrc.toNat ++ " pkts=" ++ toString s.packets ++
    " loss=" ++ s.lossPct.fixed1 ++ "%"

/-- A recorded stream summary. -/
def restoreSnap (c : Correlator) (tsUs : UInt64) (s : StreamSummary) : Correlator :=
  let c := if 0 < s.lost then { c with reg := c.reg.pushEvent (lossLine s) } else c
  let c := c.replayStreamSummary tsUs s
  { c with reg := c.reg.importStreamSnap tsUs s }

/-- A recorded diagnostic. -/
def restoreDiag (c : Correlator) (e : DiagEvt) : Correlator :=
  let line := "[" ++ toString e.severity.toNat ++ "] " ++ e.code ++ " " ++ e.message
  let reg := (c.reg.pushEvent line).updateCall e.callId (countDiagnostic (severityOf e.severity))
  { c with reg := reg.pushDiagnostic (recordedDiagnostic e) }

/-- `decode_payload`; `none` is its panic on a length that has no buffer. -/
def decodeOrPanic (raw : RawRecord) : Option (Except ReadError Event) :=
  if ((layoutOf raw.ty).walk raw.payload).ending = .panicked then none
  else some (decodePayload raw.ty raw.tsUs raw.payload)

/-- `replay_apply`, unless it panics: a payload that does not decode is skipped. -/
def replayApply (parseMessage : SipParser) (iter : Iteration) (c : Correlator) (raw : RawRecord) :
    Option Correlator :=
  match raw.ty.toNat with
  | 1 => (decodeOrPanic raw).map fun decoded => match decoded with
    | .ok (.sipMsg e) => c.ingestSip iter (evtToSipmsg parseMessage e)
    | _ => c
  | 4 => match parseStreamSummary raw.payload with
    | some s => some (c.restoreSnap raw.tsUs s)
    | none => some c
  | 5 => match parseRtcpRttMs raw.payload with
    | some rtt => some (c.replayRttSample raw.tsUs rtt)
    | none => some c
  | 8 => (decodeOrPanic raw).map fun decoded => match decoded with
    | .ok (.diag e) => c.restoreDiag e
    | _ => c
  | _ => some c

end Correlator

/-- Where `next_raw` stands after it has failed: behind the number it could not read, or
behind the length it refused. -/
def Evlog.EvlogReader.afterFailure (r : EvlogReader) : EvlogReader :=
  match readVarint r.rest with
  | .error _ => { r with rest := r.rest.drop 10 }
  | .ok (delta, rest) =>
    let r := { r with lastTs := satAdd r.lastTs delta }
    match readByte rest with
    | .error _ => { r with rest := [] }
    | .ok (_, rest) => match readVarint rest with
      | .error _ => { r with rest := rest.drop 10 }
      | .ok (_, rest) => { r with rest }

/-- How the replay was started. -/
structure ReplaySession where
  parseMessage : SipParser
  config : Config
  path : String
  file : Bytes
  withTui : Bool
  widget : App.Widget

/-- Where a publication of the replay goes on. -/
inductive ReplayOnward where
  /-- To the next record, after a clear. -/
  | read
  /-- To the head of the loop. -/
  | again
  /-- To what follows the end of the log. -/
  | idle
  /-- To the head of the loop; what was published is remembered. -/
  | noted (focus : Option FocusHint) (search : Option String)
  /-- To the end of the thread. -/
  | finish
  deriving DecidableEq

/-- Where the worker is, in the order of its loop. -/
inductive ReplayStage where
  | quitting | pausing | clearing | reading
  /-- At the end of the log: the focus, then the query, against the last publication. -/
  | idling
  | idleSearch (focus : Option FocusHint)
  /-- `publish`: the focus hint, the pinned query, the snapshot. -/
  | focusing (full : Bool) (onward : ReplayOnward)
  | searching (full : Bool) (onward : ReplayOnward)
  | storing (full : Bool) (onward : ReplayOnward)
  | ended
  /-- The program has been aborted by a panic. -/
  | aborted
  deriving DecidableEq

structure Replayer where
  corr : Correlator
  ipStatsCache : IpStatsCache := none
  reader : EvlogReader
  done : Bool := false
  lastPubFocus : Option FocusHint := some { primary := "\u0000init", linked := none }
  lastPubSearch : Option String := none
  stage : ReplayStage := .quitting

/-- What a step of the worker finds outside of the process. -/
structure ReplayTurn where
  iter : Iteration
  /-- Whether the time to publish has come. -/
  elapsed : Bool

structure ReplayMonitor where
  app : App := {}
  snap : Published := .blank
  worker : Replayer

namespace Replayer

/-- `next_raw` and what follows it. -/
def read (s : ReplaySession) (t : ReplayTurn) (worker : Replayer) : Replayer :=
  match worker.reader.nextRaw with
  | (.ok (some raw), reader) =>
    let corr := { worker.corr with reg := worker.corr.reg.ensureStart raw.tsUs }
    match corr.replayApply s.parseMessage t.iter raw with
    | none => { worker with reader, stage := .aborted }
    | some corr =>
      if s.withTui && t.elapsed then
        let reg := if corr.reg.searchHint.isSome then corr.reg.refreshSearchMatches t.iter else corr.reg
        { worker with corr := { corr with reg }, reader, stage := .focusing false .again }
      else { worker with corr, reader, stage := .quitting }
  | (ending, after) =>
    let reader := match ending with
      | .ok _ => after
      | .error _ => worker.reader.afterFailure
    if worker.done then { worker with reader, stage := .idling }
    else { worker with reader, done := true, stage := .focusing true .idle }

def goOn (worker : Replayer) : ReplayOnward → Replayer
  | .read => { worker with stage := .reading }
  | .again => { worker with stage := .quitting }
  | .idle => { worker with stage := .idling }
  | .noted focus search => { worker with lastPubFocus := focus, lastPubSearch := search, stage := .quitting }
  | .finish => { worker with stage := .ended }

/-- The snapshot to publish: 500 calls, or everything. -/
def snapshot (iter : Iteration) (worker : Replayer) (full : Bool) : Published × Replayer :=
  let (limit, streamLimit) := if full then (usizeMax, usizeMax) else (500, 1000)
  let (snap, reg, ipStatsCache) := worker.corr.reg.publishedWith iter worker.ipStatsCache limit streamLimit
  (if full then { snap with ipStats := worker.corr.reg.ipstats.rows iter } else snap,
    { worker with corr := { worker.corr with reg }, ipStatsCache })

end Replayer

namespace ReplayMonitor

/-- `run_replay` before its threads run. -/
def start (iter : Iteration) (s : ReplaySession) : ReplayMonitor :=
  let corr := (Correlator.new iter s.config ("replay:" ++ s.path)).disableEvlogEmit
  { worker := { corr := if s.withTui then corr.enableSessionStats else corr, reader := .new s.file } }

/-- The worker up to its next access of a shared cell. -/
def workerStep (s : ReplaySession) (m : ReplayMonitor) (t : ReplayTurn) : ReplayMonitor :=
  let worker := m.worker
  let shared := m.app.shared
  match worker.stage with
  | .quitting =>
    { m with worker := { worker with stage := if shared.quit then .focusing true .finish else .pausing } }
  | .pausing => { m with worker := { worker with stage := if shared.pause then .quitting else .clearing } }
  | .clearing =>
    if shared.clear then
      { m with
        app := { m.app with shared.clear := false }
        worker := { worker with
          corr := worker.corr.clear, ipStatsCache := none, stage := .focusing false .read } }
    else { m with worker := { worker with stage := .reading } }
  | .reading => { m with worker := worker.read s t }
  | .idling =>
    { m with worker := { worker with
        stage := if s.withTui then .idleSearch shared.focus else .focusing true .finish } }
  | .idleSearch focus =>
    let changed := focus ≠ worker.lastPubFocus ∨ shared.search ≠ worker.lastPubSearch
    { m with worker := { worker with
        stage := if changed then .focusing true (.noted focus shared.search) else .quitting } }
  | .focusing full onward =>
    { m with worker := { worker with
        corr := worker.corr.setFocus shared.focus, stage := .searching full onward } }
  | .searching full onward =>
    { m with worker := { worker with
        corr := worker.corr.setSearch t.iter shared.search, stage := .storing full onward } }
  | .storing full onward =>
    let (snap, worker) := worker.snapshot t.iter full
    { m with snap, worker := worker.goOn onward }
  | .ended | .aborted => m

/-- An action of one of the threads. -/
inductive Act where
  | work (t : ReplayTurn)
  | draw (now later : Nat)
  /-- A key event; `again` is what a second read of the snapshot finds. -/
  | key (kind : KeyEventKind) (code : KeyCode) (mods : KeyModifiers) (again : Published) (now : Nat)
      (exported : Except String String)
  /-- The UI has returned from its loop, and the worker is asked to quit. -/
  | leave

/-- Whether the UI thread is in its loop. -/
def uiRuns (s : ReplaySession) (m : ReplayMonitor) : Bool := s.withTui && !m.app.shouldQuit

def step (s : ReplaySession) (m : ReplayMonitor) (act : Act) : ReplayMonitor :=
  if m.worker.stage = .aborted then m
  else match act with
  | .work t => m.workerStep s t
  | .draw now later => if m.uiRuns s then { m with app := m.app.draw s.widget m.snap now later } else m
  | .key kind code mods again now exported =>
    if m.uiRuns s then
      { m with app := m.app.poll (some { kind, code, mods, reads := { snap := m.snap, again, now, exported } }) }
    else m
  | .leave =>
    if s.withTui && m.app.shouldQuit then { m with app := { m.app with shared.quit := true } } else m

def run (s : ReplaySession) (m : ReplayMonitor) (acts : List Act) : ReplayMonitor := acts.foldl (step s) m

end ReplayMonitor
end Sipmon.Source
