import Mathlib.Data.Finset.Insert
import Sipmon.Source.Evlog.Lite

/-!
# The session statistics (`src/store/evstats.rs:24-600,774-795`)

`StatsAcc` is fed with events (`ingest`), or with the framed records of a file
(`ingestRecord`), which reads stream snapshots and RTT samples through the
skipping decoders. Sums of numbers that events carry wrap like the source's;
counters that grow by one are unbounded.
-/
namespace Sipmon.Source
open Lib (FiniteMap)
open Lib.ByteReader (Bytes)
open Evlog (Event SipMsgEvt CallEvt StreamSnapLite EvlogReader RawRecord satSub)

def windowUs : UInt64 := 300 * 1000000

structure Counters where
  pkts : UInt64 := 0
  lost : UInt64 := 0
  bytes : UInt64 := 0
  deriving DecidableEq

namespace Counters

def add (c : Counters) (pkts lost bytes : UInt64) : Counters :=
  { pkts := c.pkts + pkts, lost := c.lost + lost, bytes := c.bytes + bytes }

def lossPct (c : Counters) : Option F64 :=
  if c.pkts = 0 then
    if 0 < c.lost then some 100 else none
  else some (.ofNat c.lost.toNat / .ofNat c.pkts.toNat * 100)

end Counters

/-- Failed teardowns by SIP or Q.850 cause. -/
structure FailSplit where
  notfound : Nat := 0
  reject : Nat := 0
  busy : Nat := 0
  timeout : Nat := 0
  fail : Nat := 0
  deriving DecidableEq

inductive FailKind where
  | notFound | reject | busy | timeout | fail
  deriving DecidableEq, Repr

def classifyFail (code : Option UInt32) : FailKind :=
  match code.map UInt32.toNat with
  | some 404 | some 410 | some 484 | some 485 | some 604 | some 1 => .notFound
  | some 486 | some 600 | some 17 => .busy
  | some 408 | some 480 | some 504 | some 18 | some 19 => .timeout
  | some 401 | some 403 | some 407 | some 433 | some 488 | some 603 | some 606 | some 607
  | some 21 => .reject
  | _ => .fail

def FailSplit.bump (f : FailSplit) : FailKind → FailSplit
  | .notFound => { f with notfound := f.notfound + 1 }
  | .reject => { f with reject := f.reject + 1 }
  | .busy => { f with busy := f.busy + 1 }
  | .timeout => { f with timeout := f.timeout + 1 }
  | .fail => { f with fail := f.fail + 1 }

structure WindowAcc where
  loss : Counters := {}
  sipMsgs : Nat := 0
  sipBytes : Nat := 0
  invites : Finset UInt32 := ∅
  teardowns : Nat := 0
  answered : Nat := 0
  completed : Nat := 0
  canceled : Nat := 0
  fail : FailSplit := {}
  calls : Finset UInt32 := ∅
  streams : Finset (UInt32 × UInt32) := ∅
  rttSum : F64 := 0
  rttN : Nat := 0

structure EventCounts where
  sip : Nat := 0
  txn : Nat := 0
  call : Nat := 0
  streamSnap : Nat := 0
  rtcpRtt : Nat := 0
  health : Nat := 0
  error : Nat := 0
  diag : Nat := 0
  /-- Records that could not be decoded. -/
  skipped : Nat := 0
  deriving DecidableEq

structure CallCounts where
  unique : Nat := 0
  invite : Nat := 0
  bye : Nat := 0
  cancel : Nat := 0
  completed : Nat := 0
  failed : Nat := 0
  canceled : Nat := 0
  deriving DecidableEq

structure StreamId where
  ssrc : UInt32
  flow : Flow5Tuple
  deriving DecidableEq

structure StreamSnapState where
  packets : UInt64
  lost : UInt64
  bytes : UInt64

structure StreamQuality where
  packets : UInt64
  mos : Option F64
  jitterMs : Option F64
  rttMs : Option F64

structure StatsAcc where
  events : EventCounts := {}
  /-- `intern`: a number for each Call-ID. -/
  interned : FiniteMap String UInt32 := FiniteMap.empty
  callIds : Finset UInt32 := ∅
  seizureIds : Finset UInt32 := ∅
  calls : CallCounts := {}
  lastSnap : FiniteMap (UInt32 × StreamId) StreamSnapState := FiniteMap.empty
  lastQuality : FiniteMap (UInt32 × StreamId) StreamQuality := FiniteMap.empty
  windows : FiniteMap UInt64 WindowAcc := FiniteMap.empty
  ipLoss : FiniteMap IpAddr Counters := FiniteMap.empty
  all : Counters := {}
  sipBytes : Nat := 0
  sipClass : List Nat := List.replicate 7 0
  hangup : FiniteMap UInt32 Nat := FiniteMap.empty
  fail : FailSplit := {}
  pddSamples : List UInt32 := []
  setupSum : F64 := 0
  setupN : Nat := 0
  talkSum : F64 := 0
  talkN : Nat := 0
  callDurSum : F64 := 0
  callDurN : Nat := 0
  answered : Nat := 0
  rttSum : F64 := 0
  rttN : Nat := 0
  startTsUs : Option UInt64 := none
  endTsUs : Option UInt64 := none

namespace StatsAcc

def noteTs (acc : StatsAcc) (ts : UInt64) : StatsAcc :=
  { acc with startTsUs := acc.startTsUs.or (some ts), endTsUs := some ts }

def intern (acc : StatsAcc) (s : String) : UInt32 × StatsAcc :=
  match acc.interned.lookup s with
  | some id => (id, acc)
  | none =>
    let id := UInt32.ofNat acc.interned.size
    (id, { acc with interned := acc.interned.insert s id })

/-- Intern a Call-ID and count it as seen. -/
def noteCall (acc : StatsAcc) (callId : String) : UInt32 × StatsAcc :=
  let (cid, acc) := acc.intern callId
  (cid, { acc with callIds := insert cid acc.callIds })

def windowOf (ts : UInt64) : UInt64 := ts / windowUs * windowUs

/-- `windows.entry(win).or_default()`. -/
def inWindow (acc : StatsAcc) (ts : UInt64) (update : WindowAcc → WindowAcc) : StatsAcc :=
  { acc with windows := acc.windows.upsert (windowOf ts) fun present => update (present.getD {}) }

/-! ## Signaling -/

def countRequest (acc : StatsAcc) (ts : UInt64) (cid : UInt32) (method : String) : StatsAcc :=
  if Text.eqIgnoreAsciiCase method "INVITE" then
    let acc := { acc with calls.invite := acc.calls.invite + 1
                          seizureIds := insert cid acc.seizureIds }
    acc.inWindow ts fun w => { w with invites := insert cid w.invites }
  else if Text.eqIgnoreAsciiCase method "BYE" then
    { acc with calls.bye := acc.calls.bye + 1 }
  else if Text.eqIgnoreAsciiCase method "CANCEL" then
    { acc with calls.cancel := acc.calls.cancel + 1 }
  else acc

def countResponse (acc : StatsAcc) (status : UInt16) : StatsAcc :=
  let cls := status.toNat / 100
  if 1 ≤ cls ∧ cls ≤ 6 then { acc with sipClass := acc.sipClass.modify cls (· + 1) } else acc

/-- What a message adds once its Call-ID has a number. -/
def countSipMsg (acc : StatsAcc) (cid : UInt32) (e : SipMsgEvt) : StatsAcc :=
  let acc := { acc with sipBytes := acc.sipBytes + e.raw.length }
  let acc := acc.inWindow e.tsUs fun w =>
    { w with calls := insert cid w.calls, sipMsgs := w.sipMsgs + 1
             sipBytes := w.sipBytes + e.raw.length }
  if e.isRequest then
    match e.method with
    | some method => acc.countRequest e.tsUs cid method
    | none => acc
  else match e.status with
    | some status => acc.countResponse status
    | none => acc

def ingestSipMsg (acc : StatsAcc) (e : SipMsgEvt) : StatsAcc :=
  let acc := acc.noteTs e.tsUs
  let (cid, acc) := { acc with events.sip := acc.events.sip + 1 }.noteCall e.callId
  acc.countSipMsg cid e

/-! ## Call events -/

/-- How the state of a Teardown counts. -/
def countOutcome (acc : StatsAcc) (e : CallEvt) : StatsAcc :=
  match e.state.toNat with
  | 3 =>
    { acc with calls.completed := acc.calls.completed + 1 }.inWindow e.tsUs fun w =>
      { w with completed := w.completed + 1 }
  | 4 =>
    let kind := classifyFail e.hangupCode
    { acc with calls.failed := acc.calls.failed + 1, fail := acc.fail.bump kind }.inWindow e.tsUs
      fun w => { w with fail := w.fail.bump kind }
  | 5 =>
    { acc with calls.canceled := acc.calls.canceled + 1 }.inWindow e.tsUs fun w =>
      { w with canceled := w.canceled + 1 }
  | _ => acc

def countAnswer (acc : StatsAcc) (e : CallEvt) : StatsAcc :=
  if e.answerTs.isSome then
    { acc with answered := acc.answered + 1 }.inWindow e.tsUs fun w =>
      { w with answered := w.answered + 1 }
  else acc

/-- The milliseconds from one milestone to the end of the call, when it is not before. -/
def spanMs (start : Option UInt64) (e : CallEvt) : Option F64 :=
  match start, e.endTs.or e.byeTs with
  | some a, some stop => if a ≤ stop then some (.ofNat (stop - a).toNat / 1000) else none
  | _, _ => none

/-- The delays, durations and the hangup code of a Teardown. -/
def countDelays (acc : StatsAcc) (e : CallEvt) : StatsAcc :=
  let acc := { acc with pddSamples := acc.pddSamples ++ e.pddMs.toList }
  let acc := match e.setupMs with
    | some s => { acc with setupSum := acc.setupSum + .ofNat s.toNat, setupN := acc.setupN + 1 }
    | none => acc
  let acc := match spanMs e.answerTs e with
    | some ms => { acc with talkSum := acc.talkSum + ms, talkN := acc.talkN + 1 }
    | none => acc
  let acc := match spanMs e.inviteTs e with
    | some ms => { acc with callDurSum := acc.callDurSum + ms, callDurN := acc.callDurN + 1 }
    | none => acc
  match e.hangupCode with
  | some code => { acc with hangup := acc.hangup.upsert code fun n => n.getD 0 + 1 }
  | none => acc

def countTeardown (acc : StatsAcc) (cid : UInt32) (e : CallEvt) : StatsAcc :=
  let acc := acc.inWindow e.tsUs fun w =>
    { w with teardowns := w.teardowns + 1, calls := insert cid w.calls }
  ((acc.countOutcome e).countAnswer e).countDelays e

/-- Of the call events only a Teardown is counted. -/
def ingestCall (acc : StatsAcc) (e : CallEvt) : StatsAcc :=
  let acc := acc.noteTs e.tsUs
  let (cid, acc) := { acc with events.call := acc.events.call + 1 }.noteCall e.callId
  if e.kind ≠ .teardown then acc else acc.countTeardown cid e

/-! ## Media -/

/-- `"0.0.0.0:0"` twice, over UDP. -/
def unknownFlow : Flow5Tuple :=
  { proto := .udp, src := ⟨.v4 ⟨0, 0, 0, 0⟩, 0⟩, dst := ⟨.v4 ⟨0, 0, 0, 0⟩, 0⟩ }

/-- The loss rows of both endpoints of a flow. -/
def countIpLoss (acc : StatsAcc) (flow : Flow5Tuple) (pkts lost bytes : UInt64) : StatsAcc :=
  let add := fun (rows : FiniteMap IpAddr Counters) (ip : IpAddr) =>
    rows.upsert ip fun present => (present.getD {}).add pkts lost bytes
  { acc with ipLoss := add (add acc.ipLoss flow.src.ip) flow.dst.ip }

/-- What a snapshot adds to the last one of its stream. -/
def countSnap (acc : StatsAcc) (cid : UInt32) (ts : UInt64) (e : StreamSnapLite) : StatsAcc :=
  let key := (cid, { ssrc := e.ssrc, flow := e.flow.getD unknownFlow : StreamId })
  let prev := (acc.lastSnap.lookup key).getD { packets := 0, lost := 0, bytes := 0 }
  let pkts := satSub e.packets prev.packets
  let lost := satSub e.lost prev.lost
  let bytesD := satSub e.bytes prev.bytes
  let acc := { acc with
    lastSnap := acc.lastSnap.insert key { packets := e.packets, lost := e.lost, bytes := e.bytes }
    lastQuality := acc.lastQuality.insert key
      { packets := e.packets, mos := e.mos, jitterMs := e.jitterMs, rttMs := e.rttAvgMs } }
  let acc := acc.inWindow ts fun w =>
    { w with loss := w.loss.add pkts lost bytesD, calls := insert cid w.calls
             streams := insert (cid, e.ssrc) w.streams }
  let acc := { acc with all := acc.all.add pkts lost bytesD }
  match e.flow with
  | some flow =>
    if 0 < pkts ∨ 0 < lost ∨ 0 < bytesD then acc.countIpLoss flow pkts lost bytesD else acc
  | none => acc

def ingestStreamSnap (acc : StatsAcc) (ts : UInt64) (e : StreamSnapLite) : StatsAcc :=
  let acc := acc.noteTs ts
  let (cid, acc) := { acc with events.streamSnap := acc.events.streamSnap + 1 }.noteCall e.callId
  acc.countSnap cid ts e

def ingestRtcpRtt (acc : StatsAcc) (ts : UInt64) (rttMs : F64) : StatsAcc :=
  let acc := acc.noteTs ts
  { acc with
    events.rtcpRtt := acc.events.rtcpRtt + 1, rttSum := acc.rttSum + rttMs
    rttN := acc.rttN + 1 }.inWindow ts fun w =>
      { w with rttSum := w.rttSum + rttMs, rttN := w.rttN + 1 }

/-- `ingest_stream_summary`. -/
def ingestStreamSummary (acc : StatsAcc) (ts : UInt64) (s : StreamSummary) : StatsAcc :=
  acc.ingestStreamSnap ts
    { callId := s.callId.getD "", ssrc := s.ssrc, flow := s.flow, packets := .ofNat s.packets
      lost := .ofNat s.lost, bytes := .ofNat s.bytes, jitterMs := s.jitterMs, mos := s.mos
      rttAvgMs := s.rttAvgMs }

/-! ## Events and records -/

def countTxn (acc : StatsAcc) (ts : UInt64) : StatsAcc :=
  let acc := acc.noteTs ts
  { acc with events.txn := acc.events.txn + 1 }

def countHealth (acc : StatsAcc) (ts : UInt64) : StatsAcc :=
  let acc := acc.noteTs ts
  { acc with events.health := acc.events.health + 1 }

def countError (acc : StatsAcc) (ts : UInt64) : StatsAcc :=
  let acc := acc.noteTs ts
  { acc with events.error := acc.events.error + 1 }

def countDiag (acc : StatsAcc) (ts : UInt64) : StatsAcc :=
  let acc := acc.noteTs ts
  { acc with events.diag := acc.events.diag + 1 }

/-- `ingest`. -/
def ingest (acc : StatsAcc) (ev : Event) : StatsAcc :=
  match ev with
  | .sipMsg e => acc.ingestSipMsg e
  | .txn _ => acc.countTxn ev.tsUs
  | .call e => acc.ingestCall e
  | .streamSnap e => acc.ingestStreamSnap ev.tsUs
      { callId := e.callId, ssrc := e.ssrc, flow := some e.flow, packets := e.packets
        lost := e.lost, bytes := e.bytes, jitterMs := e.jitterMs, mos := e.mos
        rttAvgMs := e.rttAvgMs }
  | .rtcpRtt e => acc.ingestRtcpRtt ev.tsUs e.rttMs
  | .healthBucket _ => acc.countHealth ev.tsUs
  | .error _ => acc.countError ev.tsUs
  | .diag _ => acc.countDiag ev.tsUs

/-- `events.skipped += 1` unless a record was parsed. -/
def orSkip (acc : StatsAcc) (parsed : Option StatsAcc) : StatsAcc :=
  parsed.getD { acc with events.skipped := acc.events.skipped + 1 }

/-- `ingest_record`. -/
def ingestRecord (acc : StatsAcc) (rec_ : RawRecord) : StatsAcc :=
  let ts := rec_.tsUs
  match rec_.ty.toNat with
  | 4 => acc.orSkip ((Evlog.parseStreamSnapLite rec_.payload).map (acc.ingestStreamSnap ts))
  | 5 => acc.orSkip ((Evlog.parseRtcpRttMs rec_.payload).map (acc.ingestRtcpRtt ts))
  | 1 | 3 => acc.orSkip ((Evlog.decodePayload rec_.ty ts rec_.payload).toOption.map acc.ingest)
  | 2 => acc.countTxn ts
  | 6 => acc.countHealth ts
  | 7 => acc.countError ts
  | 8 => acc.countDiag ts
  | _ => acc.countError ts

/-- The loop of `scan`: a framing error counts as skipped and ends it. -/
def scanRecords (r : EvlogReader) : StatsAcc :=
  let (raws, ending) := r.rawReplay
  let acc := raws.foldl ingestRecord {}
  match ending with
  | .ok () => acc
  | .error _ => { acc with events.skipped := acc.events.skipped + 1 }

end StatsAcc
end Sipmon.Source
