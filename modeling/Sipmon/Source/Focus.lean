import Sipmon.Source.Legs
import Sipmon.Source.Snapshot
import Sipmon.Source.Timeline

/-!
# The focused call (`src/store/registry.rs:34-79,774-782,836-848,1035-1210`)

The detail of one call, optionally with the messages of a linked b-leg, and the
tables of the pages. `Published` is a whole snapshot, as the UI reads it.
-/
namespace Sipmon.Source
open Lib (FiniteMap Iteration GroupIndex.members)
open Lib.ByteReader (Bytes)
open Text (Chars fromUtf8 lines splitOnce trim eqIgnoreAsciiCase)

/-- A `Focus`, with the milestone times that the timeline draws. -/
structure FocusDetail extends Focus where
  callId : String
  state : Option CallState
  fromUser : Option String
  toUser : Option String
  callerUa : Option String
  calleeUa : Option String
  callerAddr : Option SocketAddr
  callerIp : Option IpAddr
  calleeAddr : Option SocketAddr
  messages : List SipMsg
  /-- The leg of each message. -/
  legs : List UInt8
  b2bua : Option B2buaInfo
  streams : List StreamSummary
  diagnostics : List Diagnostic
  negotiatedEndpoints : List SocketAddr
  pddMs : Option UInt32
  setupMs : Option UInt32
  ringMs : Option UInt32
  earlyMedia : Bool
  hangupBy : Option HangupBy
  hangupCode : Option UInt32
  hangupReason : Option String

/-- `trim_msgs`: the last thousand. -/
def trimMsgs (msgs : List SipMsg) : List SipMsg := Registry.keepLast 1000 msgs

/-- The messages of two calls in order of time, each with its leg; the sort is stable. -/
def mergedLegs (primary linked : List SipMsg) : List (SipMsg × UInt8) :=
  ((primary.map fun m => (m, (0 : UInt8))) ++ linked.map fun m => (m, (1 : UInt8))).insertionSort
    fun a b => a.1.tsUs.toNat ≤ b.1.tsUs.toNat

/-- `merge_leg_msgs`. -/
def mergeLegMsgs (primary linked : List SipMsg) : List SipMsg × List UInt8 × UInt8 :=
  let merged := mergedLegs primary linked
  (merged.map Prod.fst, merged.map Prod.snd, if merged.isEmpty then 0 else 2)

/-- `sip_header`: the first line of this name. -/
def sipHeader (raw : Bytes) (name : String) : Option String := do
  let text ← fromUtf8 raw
  (lines text.toList).findSome? fun line => do
    let (n, v) ← splitOnce ':' line
    if eqIgnoreAsciiCase (String.ofList (trim n)) name then some (String.ofList (trim v)) else none

namespace Registry

/-- `imported_for_call`. -/
def importedForCall (reg : Registry) (callId : String) : List StreamSummary :=
  (GroupIndex.members callId reg.importedByCall).filterMap reg.importedStreams.lookup

/-- The messages of the focused call, with those of the linked one. -/
def focusMessages (reg : Registry) (call : Call) (hint : FocusHint) : List SipMsg × List UInt8 × UInt8 :=
  let primary := trimMsgs call.messages
  match hint.linked with
  | some linked => mergeLegMsgs primary (((reg.calls.lookup linked).map fun c => trimMsgs c.messages).getD [])
  | none =>
    let (legs, count) := dialogLegs primary
    (primary, legs, count)

/-- `focus_detail`. -/
def focusDetail (reg : Registry) (hint : FocusHint) : Option FocusDetail :=
  (reg.calls.lookup hint.primary).map fun call =>
    let (msgs, legs, legCount) := reg.focusMessages call hint
    let invite := msgs.find? fun m => m.isRequest && m.method == some .invite && m.toTag.isNone
    let response := msgs.find? fun m => !m.isRequest
    { Focus.ofCall call with
      callId := hint.primary, state := some call.state, fromUser := call.fromUser, toUser := call.toUser
      callerUa := invite.bind fun m => sipHeader m.raw "User-Agent"
      calleeUa := (response.bind fun m => sipHeader m.raw "Server").or
        (response.bind fun m => sipHeader m.raw "User-Agent")
      callerAddr := invite.map fun m => m.flow.src
      callerIp := (invite.map fun m => m.flow.src.ip).or call.inviteKey
      calleeAddr := response.map fun m => m.flow.src
      messages := msgs, legs
      b2bua := if 2 ≤ legCount then some { addr := commonFlowIp msgs legs, legs := legCount } else none
      streams := ((reg.callStreamKeys hint.primary).filterMap reg.streams.lookup).map RtpStream.summary ++
        reg.importedForCall hint.primary
      diagnostics := reg.diagnostics.filter fun d => d.callId == hint.primary
      negotiatedEndpoints := call.negotiated.endpoints
      pddMs := call.pddMs, setupMs := call.setupMs, ringMs := call.ringMs, earlyMedia := call.earlyMedia
      hangupBy := call.hangupBy, hangupCode := call.hangup.code, hangupReason := call.hangup.reason }

end Registry

/-! ## The tables of the pages -/

/-- The order of addresses: v4 before v6, then by their octets. -/
def IpAddr.rank : IpAddr → Nat
  | .v4 ip => ((ip.a.toNat * 256 + ip.b.toNat) * 256 + ip.c.toNat) * 256 + ip.d.toNat
  | .v6 ip => 2 ^ 32 + ip.octets.toList.foldl (fun n octet => n * 256 + octet.toNat) 0

/-- `IpStatsStore::snapshot`: the rows by address. -/
def IpStatsStore.rows (iter : Iteration) (store : IpStatsStore) : List IpStats :=
  (iter.order store.values).insertionSort fun a b => a.ip.rank ≤ b.ip.rank

/-- A row of the signaling page; the row of all addresses has none. -/
structure SipIpRow where
  ip : Option IpAddr
  stats : SipIpStats
  deriving DecidableEq

/-- Whether one address row comes before another: more messages, then the lower address. -/
def busier (a b : IpAddr × SipIpStats) : Bool :=
  b.2.totalMsgs < a.2.totalMsgs || (b.2.totalMsgs == a.2.totalMsgs && decide (a.1.rank ≤ b.1.rank))

/-- `SipStatsStore::snapshot`. -/
def SipStatsStore.rows (iter : Iteration) (store : SipStatsStore) : List SipIpRow :=
  { ip := none, stats := store.all } ::
    ((iter.order store.ips.toList).insertionSort fun a b => busier a b).map fun e =>
      { ip := some e.1, stats := e.2 }

/-- A snapshot with the detail of the focused call and the tables. -/
structure Published extends Snapshot where
  focus : Option FocusDetail
  ipStats : List IpStats
  sipStats : List SipIpRow

/-- `Snapshot::default`: what the shared cell holds before the first publication. -/
def Published.blank : Published :=
  { source := "", elapsedUs := none, startUs := none, callsTotal := 0, active := 0, completed := 0, failed := 0
    avgPddMs := 0, avgSetupMs := 0, avgJitterMs := 0, avgLossPct := 0, avgRttMs := 0, avgMos := 0, asr := 0
    calls := [], streams := [], events := [], diagnostics := [], buckets := []
    focus := none, ipStats := [], sipStats := [] }

/-- The rows of the per-IP table with the second of capture time they were taken in. -/
abbrev IpStatsCache := Option (Nat × List IpStats)

namespace Registry

/-- `ip_stats_snapshot`: the cached rows within one second of capture time. -/
def ipStatsSnapshot (iter : Iteration) (reg : Registry) (cache : IpStatsCache) : List IpStats × IpStatsCache :=
  let bucket := (reg.lastUs.getD 0).toNat / 1000000
  let rows := reg.ipstats.rows iter
  match cache with
  | some (b, cached) => if b = bucket then (cached, cache) else (rows, some (bucket, rows))
  | none => (rows, some (bucket, rows))

/-- `snapshot_with`, all of it. -/
def publishedWith (iter : Iteration) (reg : Registry) (cache : IpStatsCache) (limit streamLimit : Nat) :
    Published × Registry × IpStatsCache :=
  let (snap, after) := reg.snapshotWith iter limit streamLimit
  let (ipStats, cache) := reg.ipStatsSnapshot iter cache
  ({ snap with
      focus := reg.focusHint.bind reg.focusDetail
      ipStats, sipStats := reg.sipstats.rows iter }, after, cache)

end Registry
end Sipmon.Source
