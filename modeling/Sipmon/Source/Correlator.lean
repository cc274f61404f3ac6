import Mathlib.Data.Finset.Basic
import Sipmon.Source.CallMachine
import Sipmon.Source.Config
import Sipmon.Source.Registry
import Sipmon.Source.Rtcp
import Sipmon.Source.TcpReasm

/-!
# The correlator (`src/correlate/mod.rs`)

`ingestSip`, `ingestRtp` and `ingestRtcp` take decoded messages; each is split
into the stages of its source function, in their order. The live session report
is represented by the events it was fed. Debug output is left out.
-/
namespace Sipmon.Source
open Lib (FiniteMap Iteration)
open Lib.ByteReader (Bytes)
open Evlog (Event SipMsgEvt CallEvt DiagEvt RtcpRttEvt)

structure Correlator where
  reg : Registry
  tcpReasm : TcpReassembler := FiniteMap.empty
  /-- Whether the initial INVITE carried Record-Route. -/
  inviteRr : FiniteMap String Bool := FiniteMap.empty
  terminalDone : Finset String := ∅
  lastIpattrUs : Option UInt64 := none
  minSeverity : Severity
  pendingEvents : List Event := []
  lastFlushUs : Option UInt64 := none
  turn : TurnTracker
  emitEvlog : Bool := true
  keepTerminated : Bool
  callTtlSecs : UInt64
  sessionStats : Option (List Event) := none

namespace Correlator

def new (iter : Iteration) (config : Config) (source : String) : Correlator :=
  let reg := (Registry.withSource source).setCaps config.maxCalls config.maxStreams
    config.maxDiagnostics
  let reg := reg.setBucket config.bucket.seconds
  { reg := { reg with heatmapRetainUs := config.ringHours * 3600 * 1000000 }
    minSeverity := .fromLevel config.diagLevel
    turn := .new iter config.turnServers
    keepTerminated := config.keepTerminated
    callTtlSecs := config.callTtlSecs }

def setFocus (c : Correlator) (hint : Option FocusHint) : Correlator :=
  { c with reg := { c.reg with focusHint := hint } }

def setSearch (iter : Iteration) (c : Correlator) (q : Option String) : Correlator :=
  { c with reg := c.reg.setSearchHint iter q }

def clear (c : Correlator) : Correlator :=
  { c with
    reg := c.reg.clear, inviteRr := FiniteMap.empty, terminalDone := ∅, pendingEvents := []
    lastFlushUs := none, lastIpattrUs := none, turn := c.turn.clear
    sessionStats := c.sessionStats.map fun _ => [] }

def takeEvents (c : Correlator) : List Event × Correlator :=
  (c.pendingEvents, { c with pendingEvents := [] })

def disableEvlogEmit (c : Correlator) : Correlator := { c with emitEvlog := false }
def enableSessionStats (c : Correlator) : Correlator := { c with sessionStats := some [] }

def pushEv (c : Correlator) (ev : Event) : Correlator :=
  { c with
    sessionStats := c.sessionStats.map (· ++ [ev])
    pendingEvents := if c.emitEvlog then c.pendingEvents ++ [ev] else c.pendingEvents }

/-! ## Periodic work -/

def pruneRemovedBookkeeping (c : Correlator) : Correlator :=
  let (removed, reg) := c.reg.drainRemoved
  { c with
    reg
    inviteRr := FiniteMap.eraseAll removed c.inviteRr
    terminalDone := removed.foldl Finset.erase c.terminalDone }

def attributeIpStats (iter : Iteration) (c : Correlator) : Correlator :=
  { c with reg := (iter.order c.reg.streams.keys).foldl Registry.flushStreamIpattr c.reg }

/-- Whether a ticker with this last run and period is due. -/
def tickerDue (last : Option UInt64) (nowUs : UInt64) (periodUs : Nat) : Bool :=
  last.any fun last => periodUs ≤ nowUs.toNat - last.toNat

/-- The 1 s attribution ticker; its first call only starts the clock. -/
def ipattrTick (iter : Iteration) (c : Correlator) (tsUs : UInt64) : Correlator :=
  let due := tickerDue c.lastIpattrUs tsUs 1000000
  let c := if c.lastIpattrUs.isNone || due then { c with lastIpattrUs := some tsUs } else c
  if due then c.attributeIpStats iter else c

/-- One stream of the periodic pass: sample it, then emit its snapshot. -/
def snapStream (tsUs : UInt64) (c : Correlator) (key : StreamKey) : Correlator :=
  let c := if c.keepTerminated then
      { c with reg := c.reg.updateStream key (·.sample tsUs) }
    else c
  match c.reg.streams.lookup key with
  | some s =>
    if c.emitEvlog || c.sessionStats.isSome then c.pushEv (.streamSnap (s.toSnapEvt tsUs)) else c
  | none => c

def snapStreams (iter : Iteration) (c : Correlator) (tsUs : UInt64) : Correlator :=
  (iter.order c.reg.streams.keys).foldl (snapStream tsUs) c

/-- Search pins are refreshed before eviction. -/
def evictPass (iter : Iteration) (c : Correlator) (tsUs : UInt64) : Correlator :=
  let reg := if c.reg.searchHint.isSome then c.reg.refreshSearchMatches iter else c.reg
  { c with reg := (reg.evictStale iter c.callTtlSecs tsUs).evictIfNeeded iter }

def ipstatsIdleUs : Nat := 3600000000

def pruneIdleIps (c : Correlator) (tsUs : UInt64) : Correlator :=
  let cutoff := tsUs.toNat - ipstatsIdleUs
  { c with reg := { c.reg with ipstats := c.reg.ipstats.pruneIdle cutoff
                               sipstats := c.reg.sipstats.pruneIdle cutoff } }

/-- Body of the 5 s pass. -/
def flushPass (iter : Iteration) (c : Correlator) (tsUs : UInt64) : Correlator :=
  let c := { c with
    reg := c.reg.pruneHeatmap, turn := c.turn.prune iter
    tcpReasm := c.tcpReasm.prune tsUs TcpReassembler.idleUs }
  let c := c.snapStreams iter tsUs
  ((c.evictPass iter tsUs).pruneRemovedBookkeeping).pruneIdleIps tsUs

def flushPeriodUs : Nat := 5000000

/-- `maybe_periodic_flush`. -/
def maybePeriodicFlush (iter : Iteration) (c : Correlator) (tsUs : UInt64) : Correlator :=
  let c := c.ipattrTick iter tsUs
  let due := tickerDue c.lastFlushUs tsUs flushPeriodUs
  let c := if c.lastFlushUs.isNone || due then { c with lastFlushUs := some tsUs } else c
  if due then c.flushPass iter tsUs else c

/-! ## Diagnostics -/

def severityCode : Severity → UInt8
  | .info => 0
  | .warn => 1
  | .critical => 2

def countDiagnostic (severity : Severity) (call : Call) : Call :=
  match severity with
  | .critical => { call with criticalCount := call.criticalCount + 1 }
  | .warn => { call with warnCount := call.warnCount + 1 }
  | .info => call

def addDiagnostic (c : Correlator) (d : Diagnostic) : Correlator :=
  if d.severity.rank < c.minSeverity.rank then c
  else
    let c := c.pushEv (.diag
      { tsUs := d.tsUs, callId := d.callId, severity := severityCode d.severity
        code := d.code, message := d.message })
    let line := "[" ++ d.severity.label ++ "] " ++ d.callId ++ " " ++ d.code ++
      " (" ++ d.message ++ ")"
    let reg := c.reg.updateCall d.callId (countDiagnostic d.severity)
    { c with reg := (reg.pushEvent line).pushDiagnostic d }

def addDiagnostics (c : Correlator) (ds : List Diagnostic) : Correlator := ds.foldl addDiagnostic c

/-! ## Teardown -/

/-- One RTP direction only, seen at teardown. -/
def checkOnewayAtTeardown (c : Correlator) (callId : String) : Correlator :=
  let flows := (c.reg.callStreamKeys callId).filterMap fun k =>
    (c.reg.streams.lookup k).map RtpStream.flow
  let anyReverse := flows.any fun f => flows.contains f.reverse
  match flows with
  | [flow] =>
    if anyReverse then c
    else c.addDiagnostic (diag (c.reg.lastUs.getD 0) callId .warn .oneWayMedia
      ("only one RTP direction observed on " ++ flow.display))
  | _ => c

/-- The mean of a sum of `n` terms. -/
def average (sum : F64) (n : Nat) : Option F64 := if n = 0 then none else some (sum / .ofNat n)

def averageOf (terms : List F64) : Option F64 := average (terms.foldl (· + ·) 0) terms.length

def callStreams (c : Correlator) (callId : String) : List RtpStream :=
  (c.reg.callStreamKeys callId).filterMap c.reg.streams.lookup

/-- Loss on the client leg against loss on the peer leg of a relayed call. -/
def checkTurnLegs (c : Correlator) (callId : String) : Correlator :=
  let relayed := (c.callStreams callId).filter RtpStream.viaTurn
  let legLoss := fun leg => averageOf
    ((relayed.filter fun s => s.leg == some leg).map fun s => s.summary.lossPct)
  match legLoss .client, legLoss .peer with
  | some cl, some pl =>
    if 5 < (cl - pl).abs then
      let side := if pl < cl then "client<->relay" else "relay<->peer"
      c.addDiagnostic (diag (c.reg.lastUs.getD 0) callId .warn .turnLegImbalance
        ("TURN leg loss imbalance: client-leg " ++ cl.fixed1 ++ "% vs peer-leg " ++ pl.fixed1 ++
          "% (bottleneck on " ++ side ++ ")"))
    else c
  | _, _ => c

/-- What a terminated call and its streams contribute to the heatmap. -/
def callMetrics (call : Call) (sums : List StreamSummary) : CallMetrics :=
  { tsUs := ((call.endTs.or call.byeTs).or (call.answerTs.or call.inviteTs)).getD 0
    key := (call.inviteKey.map IpAddr.display).getD "?"
    answered := call.answerTs.isSome
    failed := call.state == .failed || call.state == .canceled
    pddMs := call.pddMs.map fun p => F64.ofNat p.toNat
    jitterMs := averageOf (sums.filterMap StreamSummary.jitterMs)
    lossPct := averageOf (sums.map StreamSummary.lossPct)
    rttMs := averageOf (sums.filterMap StreamSummary.rttAvgMs)
    mos := averageOf (sums.filterMap StreamSummary.mos) }

def recordHeatmap (c : Correlator) (callId : String) : Correlator :=
  match c.reg.calls.lookup callId with
  | some call =>
    if call.state.terminal then
      let metrics := callMetrics call ((c.callStreams callId).map RtpStream.summary)
      { c with reg := c.reg.recordHeatmapCell metrics }
    else c
  | none => c

def stateLabel : CallState → String
  | .dialing => "Dialing"
  | .ringing => "Ringing"
  | .active => "Active"
  | .completed => "Completed"
  | .failed => "Failed"
  | .canceled => "Canceled"

def stateCode : CallState → UInt8
  | .dialing => 0
  | .ringing => 1
  | .active => 2
  | .completed => 3
  | .failed => 4
  | .canceled => 5

def outcomeCode : Outcome → UInt8
  | .inProgress => 0
  | .answered => 1
  | .rejected => 2
  | .noAnswer => 3
  | .canceled => 4
  | .failed => 5

/-- The Teardown event of a call. -/
def teardownEvt (callId : String) (call : Call) (lastUs : Option UInt64) : CallEvt :=
  { tsUs := (call.endTs.or lastUs).getD 0, callId, kind := .teardown
    fromUser := call.fromUser, toUser := call.toUser, fromUri := call.fromUri, toUri := call.toUri
    state := stateCode call.state, outcome := outcomeCode call.outcome
    inviteTs := call.inviteTs, tryingTs := call.tryingTs, ringingTs := call.ringingTs
    answerTs := call.answerTs, byeTs := call.byeTs, endTs := call.endTs
    pddMs := call.pddMs, setupMs := call.setupMs
    hangupCode := call.hangup.code, hangupReason := call.hangup.reason
    pktsSip := .ofNat call.pktsSip, pktsRtp := .ofNat call.pktsRtp
    pktsRtcp := .ofNat call.pktsRtcp, bytes := .ofNat call.bytes }

/-- Release the per-IP concurrent-call counters the call holds. -/
def releaseActive (c : Correlator) (callId : String) : Correlator :=
  match c.reg.calls.lookup callId with
  | some call =>
    { c with reg := { c.reg with
        ipstats := call.activeIps.foldl (fun store ip => store.addActive ip (-1)) c.reg.ipstats } }
  | none => c

/-- The Teardown event, its log line and the outcome counters. -/
def reportTeardown (c : Correlator) (callId : String) (call : Call) : Correlator :=
  let codeText := (call.hangup.code.map fun v => toString v.toNat).getD ""
  let line := "call " ++ callId ++ " -> " ++ stateLabel call.state ++ " (" ++ codeText ++ ")"
  let c := { c with reg := c.reg.pushEvent line }
  let c := c.pushEv (.call (teardownEvt callId call c.reg.lastUs))
  if call.state = .completed then
    { c with reg := { c.reg with completed := c.reg.completed + 1 } }
  else { c with reg := { c.reg with failed := c.reg.failed + 1 } }

/-- A terminated call is reported, then dropped at once or kept up to the cap. -/
def retireCall (iter : Iteration) (c : Correlator) (callId : String) : Correlator :=
  match c.reg.calls.lookup callId with
  | some call =>
    if call.state.terminal then
      let c := c.reportTeardown callId call
      { c with reg := if c.keepTerminated then c.reg.evictIfNeeded iter
                      else c.reg.removeCall callId }
    else c
  | none => c

/-- The checks and records of a teardown that come before the call is retired. -/
def teardownChecks (c : Correlator) (callId : String) : Correlator :=
  (((c.checkOnewayAtTeardown callId).checkTurnLegs callId).recordHeatmap callId).releaseActive callId

/-- `on_call_terminal`. -/
def onCallTerminal (iter : Iteration) (c : Correlator) (callId : String) : Correlator :=
  ((c.teardownChecks callId).retireCall iter callId).pruneRemovedBookkeeping

end Correlator
end Sipmon.Source
