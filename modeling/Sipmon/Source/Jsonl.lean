import Sipmon.Lib.Rounding
import Sipmon.Source.Correlator
import Sipmon.Source.Snapshot

/-!
# The JSONL export (`src/export/jsonl.rs`)

A line stands for the JSON value that is printed on it, and numbers are exact: a
finite `f64` is the number it denotes and no operation rounds. The rate history
of a stream is left out, and so are the parts of a snapshot the export has no
line for.
-/
namespace Sipmon.Source.Jsonl
open Lib.Rounding (halfAway)
open Evlog (MetricSet)

/-- The number a finite `f64` denotes. -/
def exact (x : F64) : ℚ :=
  let (negative, mantissa, exponent) := x.decompose
  (if negative then -1 else 1) * mantissa * 2 ^ exponent / 2 ^ 1074

/-! ## JSON -/

/-- `serde_json::Value` without negative integers, which nothing here writes. -/
inductive Json where
  | null
  | bool (b : Bool)
  | posInt (n : UInt64)
  | float (x : ℚ)
  | string (s : String)
  | array (items : List Json)
  | object (fields : List (String × Json))

namespace Json

/-- `get`. -/
def get (v : Json) (key : String) : Option Json :=
  match v with
  | .object fields => fields.lookup key
  | _ => none

def asStr : Json → Option String
  | .string s => some s
  | _ => none

def asU64 : Json → Option UInt64
  | .posInt n => some n
  | _ => none

/-- Integers are numbers too. -/
def asF64 : Json → Option ℚ
  | .posInt n => some n.toNat
  | .float x => some x
  | _ => none

def asBool : Json → Option Bool
  | .bool b => some b
  | _ => none

def asArray : Json → Option (List Json)
  | .array items => some items
  | _ => none

/-- `None` is printed as `null`. -/
def opt {α : Type} (value : α → Json) : Option α → Json
  | some a => value a
  | none => .null

def u32 (n : UInt32) : Json := .posInt n.toUInt64

end Json

/-! ## Snapshots -/

structure ExactCall where
  callId : String
  fromUser : Option String
  toUser : Option String
  callerIp : Option IpAddr
  callerSrc : Option String
  state : CallState
  outcome : Outcome
  inviteTs : Option UInt64
  durationMs : Option UInt64
  pddMs : Option UInt32
  setupMs : Option UInt32
  ringMs : Option UInt32
  ringCode : Option UInt16
  earlyMedia : Bool
  hangupBy : Option HangupBy
  hangupCode : Option UInt32
  pktsSip : UInt64
  pktsRtp : UInt64
  bestMos : Option ℚ
  warnCount : UInt32
  criticalCount : UInt32
  streamCount : UInt64
  viaTurn : Bool
  ips : List IpAddr

structure ExactStream where
  callId : Option String
  ssrc : UInt32
  flow : Option Flow5Tuple
  codec : Option String
  payloadType : Option UInt8
  packets : UInt64
  lost : UInt64
  expected : UInt64
  lossPct : ℚ
  jitterMs : Option ℚ
  firstTsUs : Option UInt64
  lastTsUs : Option UInt64
  rttMinMs : Option ℚ
  rttAvgMs : Option ℚ
  rttMaxMs : Option ℚ
  onewayMs : Option ℚ
  mos : Option ℚ
  direction : Option String
  leg : Option String
  viaTurn : Bool
  bytes : UInt64

structure ExactMetrics where
  calls : UInt64
  answered : UInt64
  failed : UInt64
  pddSumMs : ℚ
  pddN : UInt64
  jitterSumMs : ℚ
  jitterN : UInt64
  lossSumPct : ℚ
  lossN : UInt64
  rttSumMs : ℚ
  rttN : UInt64
  mosSum : ℚ
  mosN : UInt64

structure ExactSnapshot where
  callsTotal : UInt64 := 0
  active : Nat := 0
  completed : Nat := 0
  failed : Nat := 0
  avgPddMs : ℚ := 0
  avgSetupMs : ℚ := 0
  avgJitterMs : ℚ := 0
  avgLossPct : ℚ := 0
  avgRttMs : ℚ := 0
  avgMos : ℚ := 0
  asr : ℚ := 0
  calls : List ExactCall := []
  streams : List ExactStream := []
  diagnostics : List Diagnostic := []
  buckets : List (UInt64 × String × ExactMetrics) := []

/-- Counters at the width of their fields. -/
def exactCall (c : CallSummary) : ExactCall :=
  { callId := c.callId, fromUser := c.fromUser, toUser := c.toUser, callerIp := c.callerIp
    callerSrc := c.callerSrc, state := c.state, outcome := c.outcome, inviteTs := c.inviteTs
    durationMs := c.durationMs, pddMs := c.pddMs, setupMs := c.setupMs, ringMs := c.ringMs
    ringCode := c.ringCode, earlyMedia := c.earlyMedia, hangupBy := c.hangupBy
    hangupCode := c.hangupCode, pktsSip := .ofNat c.pktsSip, pktsRtp := .ofNat c.pktsRtp
    bestMos := c.bestMos.map exact, warnCount := .ofNat c.warnCount
    criticalCount := .ofNat c.criticalCount, streamCount := .ofNat c.streamCount
    viaTurn := c.viaTurn, ips := c.ips }

def exactStream (s : StreamSummary) : ExactStream :=
  { callId := s.callId, ssrc := s.ssrc, flow := s.flow, codec := s.codec, payloadType := s.payloadType
    packets := .ofNat s.packets, lost := .ofNat s.lost, expected := .ofNat s.expected
    lossPct := exact s.lossPct, jitterMs := s.jitterMs.map exact, firstTsUs := s.firstTsUs
    lastTsUs := s.lastTsUs, rttMinMs := s.rttMinMs.map exact, rttAvgMs := s.rttAvgMs.map exact
    rttMaxMs := s.rttMaxMs.map exact, onewayMs := s.onewayMs.map exact, mos := s.mos.map exact
    direction := s.direction, leg := s.leg, viaTurn := s.viaTurn, bytes := .ofNat s.bytes }

def exactMetrics (m : MetricSet) : ExactMetrics :=
  { calls := m.calls, answered := m.answered, failed := m.failed, pddSumMs := exact m.pddSumMs
    pddN := m.pddN, jitterSumMs := exact m.jitterSumMs, jitterN := m.jitterN
    lossSumPct := exact m.lossSumPct, lossN := m.lossN, rttSumMs := exact m.rttSumMs, rttN := m.rttN
    mosSum := exact m.mosSum, mosN := m.mosN }

def exactSnapshot (s : Snapshot) : ExactSnapshot :=
  { callsTotal := .ofNat s.callsTotal, active := s.active, completed := s.completed, failed := s.failed
    avgPddMs := exact s.avgPddMs, avgSetupMs := exact s.avgSetupMs, avgJitterMs := exact s.avgJitterMs
    avgLossPct := exact s.avgLossPct, avgRttMs := exact s.avgRttMs, avgMos := exact s.avgMos
    asr := exact s.asr, calls := s.calls.map exactCall, streams := s.streams.map exactStream
    diagnostics := s.diagnostics, buckets := s.buckets.map fun b => (b.1, b.2.1, exactMetrics b.2.2) }

/-! ## Export -/

def round2 (v : ℚ) : ℚ := halfAway (v * 100) / 100

/-- `MetricSet::avg`. -/
def avg (sum : ℚ) (n : UInt64) : ℚ := if n = 0 then 0 else sum / n.toNat

/-- `MetricSet::asr`. -/
def ExactMetrics.asr (m : ExactMetrics) : ℚ :=
  if m.calls = 0 then 0 else m.answered.toNat / m.calls.toNat * 100

/-- The derived `Debug` text. -/
def outcomeText : Outcome → String
  | .inProgress => "InProgress"
  | .answered => "Answered"
  | .rejected => "Rejected"
  | .noAnswer => "NoAnswer"
  | .canceled => "Canceled"
  | .failed => "Failed"

def hangupText : HangupBy → String
  | .caller => "Caller"
  | .callee => "Callee"
  | .cancel => "Cancel"
  | .reject => "Reject"

def exportCall (c : ExactCall) : Json :=
  .object [
    ("kind", .string "call"),
    ("call_id", .string c.callId),
    ("from", .opt .string c.fromUser),
    ("to", .opt .string c.toUser),
    ("caller_ip", .opt (fun ip => .string ip.display) c.callerIp),
    ("caller_src", .opt .string c.callerSrc),
    ("state", .string (Correlator.stateLabel c.state)),
    ("outcome", .string (outcomeText c.outcome)),
    ("invite_ts_us", .opt .posInt c.inviteTs),
    ("duration_ms", .opt .posInt c.durationMs),
    ("pdd_ms", .opt .u32 c.pddMs),
    ("setup_ms", .opt .u32 c.setupMs),
    ("ring_ms", .opt .u32 c.ringMs),
    ("ring_code", .opt (fun n => .posInt n.toUInt64) c.ringCode),
    ("early_media", .bool c.earlyMedia),
    ("hangup_by", .opt (fun b => .string (hangupText b)) c.hangupBy),
    ("hangup_code", .opt .u32 c.hangupCode),
    ("pkts_sip", .posInt c.pktsSip),
    ("pkts_rtp", .posInt c.pktsRtp),
    ("best_mos", .opt .float c.bestMos),
    ("warn_count", .u32 c.warnCount),
    ("critical_count", .u32 c.criticalCount),
    ("stream_count", .posInt c.streamCount),
    ("via_turn", .bool c.viaTurn),
    ("ips", .array (c.ips.map fun ip => .string ip.display))]

def exportStream (s : ExactStream) : Json :=
  .object [
    ("kind", .string "stream"),
    ("call_id", .opt .string s.callId),
    ("ssrc", .string (hexPrefixed s.ssrc.toNat)),
    ("flow_src", .opt (fun f => .string f.src.display) s.flow),
    ("flow_dst", .opt (fun f => .string f.dst.display) s.flow),
    ("codec", .opt .string s.codec),
    ("pt", .opt (fun n => .posInt n.toUInt64) s.payloadType),
    ("packets", .posInt s.packets),
    ("lost", .posInt s.lost),
    ("bytes", .posInt s.bytes),
    ("loss_pct", .float (round2 s.lossPct)),
    ("jitter_ms", .opt (fun x => .float (round2 x)) s.jitterMs),
    ("rtt_avg_ms", .opt (fun x => .float (round2 x)) s.rttAvgMs),
    ("oneway_ms", .opt (fun x => .float (round2 x)) s.onewayMs),
    ("mos", .opt (fun x => .float (round2 x)) s.mos),
    ("direction", .opt .string s.direction),
    ("leg", .opt .string s.leg),
    ("via_turn", .bool s.viaTurn)]

def exportDiag (d : Diagnostic) : Json :=
  .object [
    ("kind", .string "diag"),
    ("ts_us", .posInt d.tsUs),
    ("call_id", .string d.callId),
    ("severity", .string d.severity.label),
    ("code", .string d.code),
    ("message", .string d.message)]

def exportBucket (b : UInt64 × String × ExactMetrics) : Json :=
  let m := b.2.2
  .object [
    ("kind", .string "bucket"),
    ("bucket_us", .posInt b.1),
    ("dim_key", .string b.2.1),
    ("calls", .posInt m.calls),
    ("answered", .posInt m.answered),
    ("failed", .posInt m.failed),
    ("asr_pct", .float (round2 m.asr)),
    ("avg_pdd_ms", .float (round2 (avg m.pddSumMs m.pddN))),
    ("avg_jitter_ms", .float (round2 (avg m.jitterSumMs m.jitterN))),
    ("avg_loss_pct", .float (round2 (avg m.lossSumPct m.lossN))),
    ("avg_rtt_ms", .float (round2 (avg m.rttSumMs m.rttN))),
    ("avg_mos", .float (round2 (avg m.mosSum m.mosN)))]

/-- `export_snapshot`. -/
def exportSnapshot (snap : ExactSnapshot) : List Json :=
  snap.calls.map exportCall ++ snap.streams.map exportStream ++ snap.diagnostics.map exportDiag ++
    snap.buckets.map exportBucket

/-! ## Import -/

def optStr (v : Json) (key : String) : Option String := (v.get key).bind Json.asStr
def optU64 (v : Json) (key : String) : Option UInt64 := (v.get key).bind Json.asU64
def optU32 (v : Json) (key : String) : Option UInt32 := (optU64 v key).map UInt64.toUInt32
def optF64 (v : Json) (key : String) : Option ℚ := (v.get key).bind Json.asF64
def optBool (v : Json) (key : String) : Option Bool := (v.get key).bind Json.asBool

def parseState (s : Option String) : CallState :=
  match s with
  | some "Dialing" => .dialing
  | some "Ringing" => .ringing
  | some "Active" => .active
  | some "Completed" => .completed
  | some "Canceled" => .canceled
  | some "Failed" => .failed
  | _ => .failed

def parseOutcome (s : Option String) : Outcome :=
  match s with
  | some "Answered" => .answered
  | some "Rejected" => .rejected
  | some "NoAnswer" => .noAnswer
  | some "Canceled" => .canceled
  | some "Failed" => .failed
  | _ => .inProgress

def parseSeverity (s : Option String) : Severity :=
  match s with
  | some "CRIT" => .critical
  | some "INFO" => .info
  | _ => .warn

def parseHangupBy (s : Option String) : Option HangupBy :=
  match s with
  | some "Caller" => some .caller
  | some "Callee" => some .callee
  | some "Cancel" => some .cancel
  | some "Reject" => some .reject
  | _ => none

/-- `u32::from_str_radix(text, 16)`. -/
def u32FromHex (text : Text.Chars) : Option UInt32 :=
  let digits := (Text.stripPrefix ['+'] text).getD text
  if digits.isEmpty || !digits.all fun ch => (toDigit 16 ch).isSome then none
  else
    let n := digits.foldl (fun acc ch => acc * 16 + (toDigit 16 ch).getD 0) 0
    if n < 2 ^ 32 then some (.ofNat n) else none

def parseSsrc (v : Json) : UInt32 :=
  match optStr v "ssrc" with
  | some s =>
    let hex := (Text.stripPrefix ['0', 'x'] s.toList).getD s.toList
    (u32FromHex hex).getD 0
  | none => ((optU64 v "ssrc").getD 0).toUInt32

def importCall (v : Json) : ExactCall :=
  { callId := (optStr v "call_id").getD ""
    fromUser := optStr v "from"
    toUser := optStr v "to"
    callerIp := (optStr v "caller_ip").bind fun s => parseIpAddr s.toList
    callerSrc := optStr v "caller_src"
    state := parseState (optStr v "state")
    outcome := parseOutcome (optStr v "outcome")
    inviteTs := optU64 v "invite_ts_us"
    durationMs := optU64 v "duration_ms"
    pddMs := optU32 v "pdd_ms"
    setupMs := optU32 v "setup_ms"
    ringMs := optU32 v "ring_ms"
    ringCode := (optU64 v "ring_code").map UInt64.toUInt16
    earlyMedia := (optBool v "early_media").getD false
    hangupBy := parseHangupBy (optStr v "hangup_by")
    hangupCode := optU32 v "hangup_code"
    pktsSip := (optU64 v "pkts_sip").getD 0
    pktsRtp := (optU64 v "pkts_rtp").getD 0
    bestMos := optF64 v "best_mos"
    warnCount := (optU32 v "warn_count").getD 0
    criticalCount := (optU32 v "critical_count").getD 0
    streamCount := (optU64 v "stream_count").getD 0
    viaTurn := (optBool v "via_turn").getD false
    ips := ((v.get "ips").bind Json.asArray |>.map fun items =>
      (items.filterMap Json.asStr).filterMap fun s => parseIpAddr s.toList).getD [] }

def importStream (v : Json) : ExactStream :=
  let src := (optStr v "flow_src").bind fun s => parseSocketAddr s.toList
  let dst := (optStr v "flow_dst").bind fun s => parseSocketAddr s.toList
  let flow := match src, dst with
    | some s, some d => some { proto := Proto.udp, src := s, dst := d : Flow5Tuple }
    | _, _ => none
  let packets := (optU64 v "packets").getD 0
  let lost := (optU64 v "lost").getD 0
  { callId := optStr v "call_id"
    ssrc := parseSsrc v
    flow
    codec := optStr v "codec"
    payloadType := (optU64 v "pt").map UInt64.toUInt8
    packets
    lost
    expected := packets + lost
    lossPct := (optF64 v "loss_pct").getD 0
    jitterMs := optF64 v "jitter_ms"
    firstTsUs := none
    lastTsUs := none
    rttMinMs := none
    rttAvgMs := optF64 v "rtt_avg_ms"
    rttMaxMs := none
    onewayMs := optF64 v "oneway_ms"
    mos := optF64 v "mos"
    direction := optStr v "direction"
    leg := optStr v "leg"
    viaTurn := (optBool v "via_turn").getD false
    bytes := (optU64 v "bytes").getD 0 }

def importDiag (v : Json) : Diagnostic :=
  { tsUs := (optU64 v "ts_us").getD 0
    callId := (optStr v "call_id").getD ""
    severity := parseSeverity (optStr v "severity")
    code := codeFromStr ((optStr v "code").getD "")
    message := (optStr v "message").getD "" }

/-- The sums are made up from the averages, with a term for every call. -/
def importBucket (v : Json) : UInt64 × String × ExactMetrics :=
  let calls := (optU64 v "calls").getD 0
  let sum := fun key => (optF64 v key).getD 0 * calls.toNat
  ((optU64 v "bucket_us").getD 0, (optStr v "dim_key").getD "",
    { calls
      answered := (optU64 v "answered").getD 0
      failed := (optU64 v "failed").getD 0
      pddSumMs := sum "avg_pdd_ms", pddN := calls
      jitterSumMs := sum "avg_jitter_ms", jitterN := calls
      lossSumPct := sum "avg_loss_pct", lossN := calls
      rttSumMs := sum "avg_rtt_ms", rttN := calls
      mosSum := sum "avg_mos", mosN := calls })

def meanOpt (terms : List ℚ) : ℚ := if terms.length = 0 then 0 else terms.sum / terms.length

/-- One line; other kinds are passed over. -/
def importLine (snap : ExactSnapshot) (v : Json) : ExactSnapshot :=
  match optStr v "kind" with
  | some "call" => { snap with calls := snap.calls ++ [importCall v] }
  | some "stream" => { snap with streams := snap.streams ++ [importStream v] }
  | some "diag" => { snap with diagnostics := snap.diagnostics ++ [importDiag v] }
  | some "bucket" => { snap with buckets := snap.buckets ++ [importBucket v] }
  | _ => snap

/-- `import_snapshot`. -/
def importSnapshot (lines : List Json) : ExactSnapshot :=
  let snap := lines.foldl importLine {}
  let completed := snap.calls.countP fun s => s.state == .completed
  let callsTotal := UInt64.ofNat snap.calls.length
  { snap with
    callsTotal
    active := snap.calls.countP fun s => !s.state.terminal
    completed
    failed := snap.calls.countP fun s => s.state == .failed || s.state == .canceled
    avgPddMs := meanOpt (snap.calls.filterMap fun c => c.pddMs.map fun n => n.toNat)
    avgSetupMs := meanOpt (snap.calls.filterMap fun c => c.setupMs.map fun n => n.toNat)
    avgJitterMs := meanOpt (snap.streams.filterMap ExactStream.jitterMs)
    avgLossPct := meanOpt (snap.streams.map ExactStream.lossPct)
    avgMos := meanOpt (snap.streams.filterMap ExactStream.mos)
    avgRttMs := meanOpt (snap.streams.filterMap ExactStream.rttAvgMs)
    asr := if callsTotal = 0 then 0 else completed / callsTotal.toNat * 100
    calls := snap.calls.insertionSort fun a b => (b.inviteTs.getD 0).toNat ≤ (a.inviteTs.getD 0).toNat }

end Sipmon.Source.Jsonl
