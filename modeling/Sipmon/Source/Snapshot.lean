import Sipmon.Source.Registry

/-!
# Snapshots (`src/store/registry.rs`)

What the UI and the exports are given. The capture counters, the per-IP tables
and the focus payload of a snapshot are left out.
-/
namespace Sipmon.Source
open Lib (FiniteMap Iteration)
open Evlog (MetricSet)

/-- `usize::MAX`. -/
def usizeMax : Nat := 2 ^ 64 - 1

/-- `flat`: every cell with its bucket, by bucket. -/
def Heatmap.flat (iter : Iteration) (map : Heatmap) : List (UInt64 × String × MetricSet) :=
  ((iter.order map.cells.toList).flatMap fun row =>
    (iter.order row.2.toList).map fun cell => (row.1, cell.1, cell.2)).insertionSort
      fun a b => a.1.toNat ≤ b.1.toNat

structure CallSummary where
  callId : String
  fromUser : Option String
  toUser : Option String
  callerIp : Option IpAddr
  callerSrc : Option String
  state : CallState
  outcome : Outcome
  inviteTs : Option UInt64
  durationMs : Option UInt64
  pddMs : Option UInt32
  setupMs : Option UInt32
  ringMs : Option UInt32
  ringCode : Option UInt16
  earlyMedia : Bool
  hangupBy : Option HangupBy
  hangupCode : Option UInt32
  pktsSip : Nat
  pktsRtp : Nat
  bestMos : Option F64
  warnCount : Nat
  criticalCount : Nat
  streamCount : Nat
  viaTurn : Bool
  ips : List IpAddr
  deriving DecidableEq

/-- The fields the UI's filter reads. -/
def CallSummary.like (s : CallSummary) : CallLike :=
  { callId := s.callId, caller := s.fromUser, callee := s.toUser, callerIp := s.callerIp, ips := s.ips }

/-- `stats_light`: the numbers of `summary` that the aggregates use. -/
structure StatsLight where
  callId : String
  jitterMs : Option F64
  lossPct : F64
  mos : Option F64
  rttAvgMs : Option F64

def RtpStream.statsLight (stream : RtpStream) : StatsLight :=
  let st := stream.snapshotStats
  { callId := stream.callId, jitterMs := st.jitterMs, lossPct := st.lossPercent
    mos := stream.mos st.lossPercent st.jitterMs, rttAvgMs := mean stream.rttSamples }

/-- Sums over streams, each with its number of terms. -/
structure MediaTotals where
  jitter : F64 × UInt64 := (0, 0)
  loss : F64 × UInt64 := (0, 0)
  mos : F64 × UInt64 := (0, 0)
  rtt : F64 × UInt64 := (0, 0)

def MediaTotals.add (t : MediaTotals) (jitterMs : Option F64) (lossPct : F64) (mos rttMs : Option F64) :
    MediaTotals :=
  { jitter := addTerm t.jitter.1 t.jitter.2 jitterMs
    loss := addTerm t.loss.1 t.loss.2 (some lossPct)
    mos := addTerm t.mos.1 t.mos.2 mos
    rtt := addTerm t.rtt.1 t.rtt.2 rttMs }

/-- `avg`: the mean of a sum, 0 without terms. -/
def meanOr0 (total : F64 × UInt64) : F64 := if total.2 = 0 then 0 else total.1 / .ofNat total.2.toNat

structure Snapshot where
  source : String
  elapsedUs : Option UInt64
  startUs : Option UInt64
  callsTotal : Nat
  active : Nat
  completed : Nat
  failed : Nat
  avgPddMs : F64
  avgSetupMs : F64
  avgJitterMs : F64
  avgLossPct : F64
  avgRttMs : F64
  avgMos : F64
  asr : F64
  calls : List CallSummary
  streams : List StreamSummary
  events : List String
  diagnostics : List Diagnostic
  buckets : List (UInt64 × String × MetricSet)

namespace Registry

/-! ## Caches -/

/-- `events_snapshot`: the cached clone while its version is current. -/
def eventsSnapshot (reg : Registry) : List String × Registry :=
  match reg.eventsCache with
  | some (ver, events) => if ver = reg.eventsVer then (events, reg)
      else (reg.events, { reg with eventsCache := some (reg.eventsVer, reg.events) })
  | none => (reg.events, { reg with eventsCache := some (reg.eventsVer, reg.events) })

/-- `diag_snapshot`. -/
def diagSnapshot (reg : Registry) : List Diagnostic × Registry :=
  match reg.diagCache with
  | some (ver, diagnostics) => if ver = reg.diagVer then (diagnostics, reg)
      else (reg.diagnostics, { reg with diagCache := some (reg.diagVer, reg.diagnostics) })
  | none => (reg.diagnostics, { reg with diagCache := some (reg.diagVer, reg.diagnostics) })

/-- `buckets_snapshot`. -/
def bucketsSnapshot (iter : Iteration) (reg : Registry) :
    List (UInt64 × String × MetricSet) × Registry :=
  let flat := reg.heatmap.flat iter
  match reg.bucketsCache with
  | some (ver, buckets) => if ver = reg.heatVer then (buckets, reg)
      else (flat, { reg with bucketsCache := some (reg.heatVer, flat) })
  | none => (flat, { reg with bucketsCache := some (reg.heatVer, flat) })

/-! ## Calls -/

/-- The smallest MOS and the number of the live streams of each call. -/
def liveByCall (iter : Iteration) (reg : Registry) : FiniteMap String (Option F64 × Nat) :=
  (iter.order reg.streams.values).foldl (fun rollup stream =>
    let light := stream.statsLight
    rollup.upsert light.callId fun present =>
      let (best, count) := present.getD (none, 0)
      ((light.mos.map fun m => minOpt best m).getD best, count + 1)) FiniteMap.empty

/-- The imported streams of each call. -/
def importedSummaries (iter : Iteration) (reg : Registry) : FiniteMap String (List StreamSummary) :=
  (iter.order reg.importedStreams.toList).foldl (fun rollup entry =>
    rollup.upsert entry.1.callId fun present => present.getD [] ++ [entry.2]) FiniteMap.empty

/-- `summarize`. -/
def summarize (call : Call) (live : Option (Option F64 × Nat)) (imported : Option (List StreamSummary)) :
    CallSummary :=
  let (best, count) := live.getD (none, 0)
  let replayed := imported.getD []
  { callId := call.callId, fromUser := call.fromUser, toUser := call.toUser
    callerIp := call.inviteKey, callerSrc := call.inviteSrc.map SocketAddr.display
    state := call.state, outcome := call.outcome, inviteTs := call.inviteTs
    durationMs := call.durationMs, pddMs := call.pddMs, setupMs := call.setupMs
    ringMs := call.ringMs, ringCode := call.ringCode, earlyMedia := call.earlyMedia
    hangupBy := call.hangupBy, hangupCode := call.hangup.code
    pktsSip := call.pktsSip, pktsRtp := call.pktsRtp + (replayed.map StreamSummary.packets).sum
    bestMos := (replayed.filterMap StreamSummary.mos).foldl minOpt best
    warnCount := call.warnCount, criticalCount := call.criticalCount
    streamCount := count + replayed.length, viaTurn := call.viaTurn, ips := call.ips }

/-- The summary of a call among the streams of the registry. -/
def callSummary (iter : Iteration) (reg : Registry) (call : Call) : CallSummary :=
  summarize call ((reg.liveByCall iter).lookup call.callId) ((reg.importedSummaries iter).lookup call.callId)

/-- The calls created last. -/
def recentCalls (iter : Iteration) (reg : Registry) (limit : Nat) : List CallSummary :=
  ((reg.order.reverse.take limit).filterMap reg.calls.lookup).map (reg.callSummary iter)

/-- One search match is shown too, unless it is shown already or the list is full. -/
def showMatch (iter : Iteration) (reg : Registry) (cap : Nat) (shown : List String)
    (summaries : List CallSummary) (id : String) : List CallSummary :=
  if cap ≤ summaries.length ∨ id ∈ shown then summaries
  else match reg.calls.lookup id with
    | some call => summaries ++ [reg.callSummary iter call]
    | none => summaries

/-- The calls of a snapshot before they are sorted: the window, then the search matches. -/
def displayed (iter : Iteration) (reg : Registry) (limit : Nat) : List CallSummary :=
  let summaries := reg.recentCalls iter limit
  if limit = usizeMax then summaries
  else reg.searchMatches.foldl (reg.showMatch iter (min (limit + searchPinMax) usizeMax)
    (summaries.map CallSummary.callId)) summaries

/-! ## The snapshot -/

/-- The sums over all streams, live ones first. -/
def mediaTotals (iter : Iteration) (reg : Registry) : MediaTotals :=
  let live := (iter.order reg.streams.values).foldl (fun t stream =>
    let light := stream.statsLight
    t.add light.jitterMs light.lossPct light.mos light.rttAvgMs) {}
  (iter.order reg.importedStreams.values).foldl (fun t s => t.add s.jitterMs s.lossPct s.mos s.rttAvgMs) live

/-- A sum of milliseconds over the calls that have them. -/
def callTotal (iter : Iteration) (reg : Registry) (ms : Call → Option UInt32) : F64 × UInt64 :=
  (iter.order reg.calls.values).foldl (fun t call =>
    addTerm t.1 t.2 ((ms call).map fun v => .ofNat v.toNat)) (0, 0)

/-- `calls_total` before the number of tracked calls is taken into account. -/
def countedCalls (reg : Registry) (active : Nat) : Nat := reg.completed + reg.failed + active

def shownStreams (iter : Iteration) (reg : Registry) (streamLimit : Nat) : List StreamSummary :=
  let live := ((iter.order reg.streams.values).take streamLimit).map RtpStream.summary
  live ++ (iter.order reg.importedStreams.values).take (streamLimit - live.length)

/-- `snapshot_with`; only the caches of the registry change. -/
def snapshotWith (iter : Iteration) (reg : Registry) (limit streamLimit : Nat) : Snapshot × Registry :=
  let summaries := reg.displayed iter limit
  let active := summaries.countP fun s => !s.state.terminal
  let media := reg.mediaTotals iter
  let counted := reg.countedCalls active
  let events := reg.eventsSnapshot
  let diagnostics := events.2.diagSnapshot
  let buckets := diagnostics.2.bucketsSnapshot iter
  ({ source := reg.source
     elapsedUs := match reg.startUs, reg.lastUs with
       | some a, some b => some (.ofNat (b.toNat - a.toNat))
       | _, _ => none
     startUs := reg.startUs
     callsTotal := max counted reg.calls.size
     active
     completed := summaries.countP fun s => s.state == .completed
     failed := summaries.countP fun s => s.state == .failed || s.state == .canceled
     avgPddMs := meanOr0 (reg.callTotal iter Call.pddMs)
     avgSetupMs := meanOr0 (reg.callTotal iter Call.setupMs)
     avgJitterMs := meanOr0 media.jitter
     avgLossPct := meanOr0 media.loss
     avgRttMs := meanOr0 media.rtt
     avgMos := meanOr0 media.mos
     asr := if counted = 0 then 0 else .ofNat reg.completed / .ofNat counted * 100
     calls := summaries.insertionSort fun a b => (b.inviteTs.getD 0).toNat ≤ (a.inviteTs.getD 0).toNat
     streams := reg.shownStreams iter streamLimit
     events := events.1
     diagnostics := diagnostics.1
     buckets := buckets.1 }, buckets.2)

/-- `snapshot`: what the UI polls. -/
def snapshot (iter : Iteration) (reg : Registry) (limit : Nat) : Snapshot × Registry :=
  reg.snapshotWith iter limit 1000

/-- `snapshot_full`: what is exported. -/
def snapshotFull (iter : Iteration) (reg : Registry) : Snapshot × Registry :=
  reg.snapshotWith iter usizeMax usizeMax

end Registry
end Sipmon.Source
