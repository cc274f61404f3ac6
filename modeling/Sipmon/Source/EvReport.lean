import Mathlib.Data.Finset.Card
import Mathlib.Data.List.Sort
import Sipmon.Source.EvStats

/-!
# The session report (`src/store/evstats.rs:104-271,602-872`)

`finish` seals an accumulator into the printed report. The hash tables are
visited in an order of their own; the windows are sorted by their start.
-/
namespace Sipmon.Source
open Lib (FiniteMap Iteration)

structure LossWindow where
  startTsUs : UInt64
  calls : Nat
  streams : Nat
  invites : Nat
  teardowns : Nat
  answered : Nat
  asrPct : Option F64
  nerPct : Option F64
  ccrPct : Option F64
  cancelPct : Option F64
  notfoundPct : Option F64
  rejectPct : Option F64
  busyPct : Option F64
  timeoutPct : Option F64
  failPct : Option F64
  pkts : UInt64
  lost : UInt64
  rtpBytes : UInt64
  sipMsgs : Nat
  lossPct : Option F64
  avgRttMs : Option F64

structure IpLoss where
  ip : IpAddr
  pkts : UInt64
  lost : UInt64
  bytes : UInt64
  lossPct : Option F64

structure Reliability where
  seizures : Nat
  answered : Nat
  asrPct : Option F64
  ccrPct : Option F64
  cancelPct : Option F64
  nerPct : Option F64
  notfound : Nat
  reject : Nat
  busy : Nat
  timeout : Nat
  fail : Nat
  notfoundPct : Option F64
  rejectPct : Option F64
  busyPct : Option F64
  timeoutPct : Option F64
  failPct : Option F64
  avgPddMs : Option F64
  p50PddMs : Option F64
  p95PddMs : Option F64
  avgSetupMs : Option F64
  avgTalkMs : Option F64
  avgCallMs : Option F64
  hangupCodes : List (UInt32 × Nat)

structure Traffic where
  rtpPkts : UInt64
  rtpLost : UInt64
  rtpBytes : UInt64
  sipMsgs : Nat
  sipBytes : Nat
  lossPct : Option F64
  avgBps : Option F64
  avgRtpPps : Option F64
  avgCps : Option F64
  avgMos : Option F64
  avgJitterMs : Option F64
  p50JitterMs : Option F64
  p95JitterMs : Option F64
  avgRttMs : Option F64
  rttSamples : Nat
  sipClass : List Nat

structure EvlogStats where
  file : String
  bytes : Nat
  tzOffsetSecs : Option Int32
  startTsUs : Option UInt64
  endTsUs : Option UInt64
  events : EventCounts
  calls : CallCounts
  reliability : Reliability
  traffic : Traffic
  windows : List LossWindow
  topIps : List IpLoss
  loss : Counters

namespace StatsAcc

/-- `rate`: `n` per `den`, in percent. -/
def rate (den n : Nat) : Option F64 := if den = 0 then none else some (.ofNat n / .ofNat den * 100)

def meanU32 (v : List UInt32) : Option F64 :=
  if v.isEmpty then none
  else some ((v.map fun x => F64.ofNat x.toNat).foldl (· + ·) 0 / .ofNat v.length)

def meanF64 (sum : F64) (n : Nat) : Option F64 := if n = 0 then none else some (sum / .ofNat n)

/-- `percentile` of a sorted list. -/
def percentile (sorted : List UInt32) (p : F64) : Option F64 :=
  let idx := ((F64.ofNat sorted.length - 1) * p).round.toU64.toNat
  (sorted[min idx (sorted.length - 1)]?).map fun x => .ofNat x.toNat

/-- The first value whose cumulated weight passes the target. -/
def passing (target : F64) : F64 → List (F64 × UInt64) → Option F64
  | _, [] => none
  | sum, (value, w) :: rest =>
    let sum := sum + .ofNat w.toNat
    if target < sum then some value else passing target sum rest

def weightedPercentile (samples : List (F64 × UInt64)) (p : F64) : Option F64 :=
  let v := (samples.filter fun s : F64 × UInt64 => decide (0 < s.2)).insertionSort fun a b => a.1.totalRank ≤ b.1.totalRank
  let total := v.foldl (fun sum s => sum + s.2) (0 : UInt64)
  passing ((.ofNat total.toNat - 1) * p.clamp 0 1) 0 v

/-- A packet-weighted mean of one quality of the streams. -/
def weightedMean (samples : List (F64 × UInt64)) : Option F64 :=
  let sum := samples.foldl (fun sum s => sum + s.1 * .ofNat s.2.toNat) 0
  let weight := samples.foldl (fun w s => w + s.2) (0 : UInt64)
  meanF64 sum weight.toNat

/-- One quality of every stream with the packets that weigh it. -/
def weighted (streams : List StreamQuality) (quality : StreamQuality → Option F64) :
    List (F64 × UInt64) :=
  streams.filterMap fun s => (quality s).map fun x => (x, max s.packets 1)

def topCodes (iter : Iteration) (map : FiniteMap UInt32 Nat) (n : Nat) : List (UInt32 × Nat) :=
  ((iter.order map.toList).insertionSort fun a b => b.2 < a.2 ∨ (a.2 = b.2 ∧ a.1 ≤ b.1)).take n

def finishWindow (start : UInt64) (w : WindowAcc) : LossWindow :=
  let rate := rate w.teardowns
  { startTsUs := start, calls := w.calls.card, streams := w.streams.card
    invites := w.invites.card, teardowns := w.teardowns, answered := w.answered
    asrPct := rate w.answered
    nerPct := rate (w.answered + w.fail.notfound + w.fail.reject + w.fail.busy)
    ccrPct := rate w.completed, cancelPct := rate w.canceled
    notfoundPct := rate w.fail.notfound, rejectPct := rate w.fail.reject
    busyPct := rate w.fail.busy, timeoutPct := rate w.fail.timeout, failPct := rate w.fail.fail
    pkts := w.loss.pkts, lost := w.loss.lost, rtpBytes := w.loss.bytes
    sipMsgs := w.sipMsgs, lossPct := w.loss.lossPct, avgRttMs := meanF64 w.rttSum w.rttN }

def finishWindows (acc : StatsAcc) : List LossWindow :=
  (acc.windows.toList.insertionSort fun a b => a.1 ≤ b.1).map fun e => finishWindow e.1 e.2

def finishReliability (iter : Iteration) (acc : StatsAcc) : Reliability :=
  let rate := rate acc.seizureIds.card
  let pdd := acc.pddSamples.insertionSort fun a b => a ≤ b
  { seizures := acc.seizureIds.card, answered := acc.answered
    asrPct := rate acc.answered, ccrPct := rate acc.calls.completed
    cancelPct := rate acc.calls.canceled
    nerPct := rate (acc.answered + acc.fail.notfound + acc.fail.reject + acc.fail.busy)
    notfound := acc.fail.notfound, reject := acc.fail.reject, busy := acc.fail.busy
    timeout := acc.fail.timeout, fail := acc.fail.fail
    notfoundPct := rate acc.fail.notfound, rejectPct := rate acc.fail.reject
    busyPct := rate acc.fail.busy, timeoutPct := rate acc.fail.timeout
    failPct := rate acc.fail.fail
    avgPddMs := meanU32 pdd, p50PddMs := percentile pdd 0.5, p95PddMs := percentile pdd 0.95
    avgSetupMs := meanF64 acc.setupSum acc.setupN, avgTalkMs := meanF64 acc.talkSum acc.talkN
    avgCallMs := meanF64 acc.callDurSum acc.callDurN, hangupCodes := topCodes iter acc.hangup 10 }

/-- The seconds the events span, at least a nanosecond. -/
def spanSecs (acc : StatsAcc) : F64 :=
  let spanUs := match acc.startTsUs, acc.endTsUs with
    | some a, some b => if a < b then b - a else 0
    | _, _ => 0
  F64.max (.ofNat spanUs.toNat / 1000000) 1e-9

def finishTraffic (iter : Iteration) (acc : StatsAcc) : Traffic :=
  let spanS := acc.spanSecs
  let seizures := acc.seizureIds.card
  let streams := iter.order acc.lastQuality.values
  let jitters := weighted streams StreamQuality.jitterMs
  { rtpPkts := acc.all.pkts, rtpLost := acc.all.lost, rtpBytes := acc.all.bytes
    sipMsgs := acc.events.sip, sipBytes := acc.sipBytes, lossPct := acc.all.lossPct
    avgBps := if 0 < acc.all.bytes then some (.ofNat acc.all.bytes.toNat * 8 / spanS) else none
    avgRtpPps := if 0 < acc.all.pkts then some (.ofNat acc.all.pkts.toNat / spanS) else none
    avgCps := if 0 < seizures then some (.ofNat seizures / spanS) else none
    avgMos := weightedMean (weighted streams StreamQuality.mos)
    avgJitterMs := weightedMean jitters
    p50JitterMs := weightedPercentile jitters 0.5, p95JitterMs := weightedPercentile jitters 0.95
    avgRttMs := (meanF64 acc.rttSum acc.rttN).or
      (weightedMean (weighted streams StreamQuality.rttMs))
    rttSamples := acc.rttN, sipClass := acc.sipClass }

/-- Worst loss first, then most packets lost. -/
def finishIps (iter : Iteration) (acc : StatsAcc) (topIps : Nat) : List IpLoss :=
  let rows := (iter.order acc.ipLoss.toList).map fun e =>
    { ip := e.1, pkts := e.2.pkts, lost := e.2.lost, bytes := e.2.bytes
      lossPct := e.2.lossPct : IpLoss }
  let pct := fun row : IpLoss => row.lossPct.getD 0
  (rows.insertionSort fun a b => pct b < pct a ∨ (¬ pct a < pct b ∧ b.lost ≤ a.lost)).take topIps

/-- `finish`. -/
def finish (iter : Iteration) (acc : StatsAcc) (file : String) (bytes : Nat)
    (tzOffsetSecs : Option Int32) (topIps : Nat) : EvlogStats :=
  { file, bytes, tzOffsetSecs, startTsUs := acc.startTsUs, endTsUs := acc.endTsUs
    events := acc.events, calls := { acc.calls with unique := acc.callIds.card }
    reliability := acc.finishReliability iter, traffic := acc.finishTraffic iter
    windows := acc.finishWindows, topIps := acc.finishIps iter topIps, loss := acc.all }

/-- `scan`. -/
def scan (iter : Iteration) (reader : Evlog.EvlogReader) (bytes : Nat) (file : String)
    (topIps : Nat) : EvlogStats :=
  (scanRecords reader).finish iter file bytes reader.tzOffsetSecs topIps

end StatsAcc
end Sipmon.Source
