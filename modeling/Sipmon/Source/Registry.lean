import Mathlib.Data.List.Sort
import Sipmon.Lib.GroupIndex
import Sipmon.Source.Diagnostics
import Sipmon.Source.Filter
import Sipmon.Source.Heatmap
import Sipmon.Source.IpStats
import Sipmon.Source.RtpStream
import Sipmon.Source.SipStats

/-!
# The registry (`src/store/registry.rs`)

The state the pipeline keeps in memory. A pass over a hash table takes the
order in which it visits the entries as a parameter. The packet-rate counters
and the capture counters are left out, and so is the cache of the per-IP table.
The snapshots stand in `Snapshot`.
-/
namespace Sipmon.Source
open Lib (FiniteMap GroupIndex.push GroupIndex.forget GroupIndex.members Iteration)

/-- What the UI shows in detail: a call and its linked b-leg. -/
structure FocusHint where
  primary : String
  linked : Option String
  deriving DecidableEq, Repr

/-- One stream: directed flow and SSRC. -/
structure StreamKey where
  flow : Flow5Tuple
  ssrc : UInt32
  deriving DecidableEq, Repr

/-- Identity of an imported stream; an older summary has no flow. -/
structure ImportKey where
  callId : String
  ssrc : UInt32
  flow : Option Flow5Tuple
  deriving DecidableEq, Repr

def importKey (s : StreamSummary) : ImportKey :=
  { callId := s.callId.getD "", ssrc := s.ssrc, flow := s.flow }

structure Registry where
  calls : FiniteMap String Call := FiniteMap.empty
  /-- Insertion order of the calls. -/
  order : List String := []
  streams : FiniteMap StreamKey RtpStream := FiniteMap.empty
  /-- SDP media endpoint to Call-ID. -/
  endpointCall : FiniteMap SocketAddr String := FiniteMap.empty
  events : List String := []
  source : String
  startUs : Option UInt64 := none
  lastUs : Option UInt64 := none
  completed : Nat := 0
  failed : Nat := 0
  diagnostics : List Diagnostic := []
  heatmap : Heatmap := .new 900
  focusHint : Option FocusHint := none
  searchHint : Option String := none
  searchMatches : List String := []
  /-- Call-IDs removed since the last drain. -/
  removed : List String := []
  heatmapRetainUs : UInt64 := 24 * 3600 * 1000000
  streamIndex : FiniteMap String (List StreamKey) := FiniteMap.empty
  ssrcIndex : FiniteMap UInt32 (List StreamKey) := FiniteMap.empty
  ipstats : IpStatsStore := FiniteMap.empty
  sipstats : SipStatsStore := {}
  maxCalls : Nat := 100000
  maxStreams : Nat := 50000
  maxDiagnostics : Nat := 50000
  importedStreams : FiniteMap ImportKey StreamSummary := FiniteMap.empty
  /-- Call-ID to the keys of its imported streams. -/
  importedByCall : FiniteMap String (List ImportKey) := FiniteMap.empty
  eventsVer : Nat := 0
  diagVer : Nat := 0
  heatVer : Nat := 0
  /-- What the last snapshot cloned, with the version it was cloned at. -/
  eventsCache : Option (Nat × List String) := none
  diagCache : Option (Nat × List Diagnostic) := none
  bucketsCache : Option (Nat × List (UInt64 × String × Evlog.MetricSet)) := none

/-- Completed, failed or canceled. -/
def CallState.terminal : CallState → Bool
  | .completed | .failed | .canceled => true
  | _ => false

namespace Registry

def searchPinMax : Nat := 1000
def maxEvents : Nat := 1000

def withSource (source : String) : Registry := { source }

def setCaps (reg : Registry) (maxCalls maxStreams maxDiagnostics : Nat) : Registry :=
  { reg with maxCalls, maxStreams, maxDiagnostics }

def setBucket (reg : Registry) (bucketSecs : UInt64) : Registry :=
  { reg with heatmap := .new bucketSecs }

/-- `clear`: the search hint and the list of removed calls survive. -/
def clear (reg : Registry) : Registry :=
  { reg with
    calls := FiniteMap.empty, order := [], streams := FiniteMap.empty
    endpointCall := FiniteMap.empty, streamIndex := FiniteMap.empty, ssrcIndex := FiniteMap.empty
    events := [], diagnostics := [], heatmap := .new reg.heatmap.bucketSecs
    ipstats := FiniteMap.empty, sipstats := {}
    importedStreams := FiniteMap.empty, importedByCall := FiniteMap.empty
    startUs := none, lastUs := none, completed := 0, failed := 0
    focusHint := none, searchMatches := []
    eventsVer := reg.eventsVer + 1, diagVer := reg.diagVer + 1, heatVer := reg.heatVer + 1
    eventsCache := none, diagCache := none, bucketsCache := none }

/-- `calls.get_mut(id)`. -/
def updateCall (reg : Registry) (id : String) (update : Call → Call) : Registry :=
  { reg with calls := reg.calls.modify id update }

/-- `streams.get_mut(key)`. -/
def updateStream (reg : Registry) (key : StreamKey) (update : RtpStream → RtpStream) : Registry :=
  { reg with streams := reg.streams.modify key update }

/-- Most recent INVITE first, at most `searchPinMax` calls. -/
def refreshSearchMatches (iter : Iteration) (reg : Registry) : Registry :=
  match reg.searchHint with
  | none => { reg with searchMatches := [] }
  | some q =>
    let rules := Filter.parse q.toList
    let matched := (iter.order reg.calls.values).filter fun c => Filter.matchesAll c.like rules
    let recent := matched.insertionSort fun a b =>
      (b.inviteTs.getD 0).toNat ≤ (a.inviteTs.getD 0).toNat
    { reg with searchMatches := (recent.take searchPinMax).map Call.callId }

def setSearchHint (iter : Iteration) (reg : Registry) (q : Option String) : Registry :=
  let norm := (q.map fun s => String.ofList (Text.trim s.toList)).filter (· ≠ "")
  if norm = reg.searchHint then reg
  else refreshSearchMatches iter { reg with searchHint := norm }

/-- `pinned_set().contains(id)`: focus- or search-protected. -/
def pinned (reg : Registry) (id : String) : Bool :=
  reg.searchMatches.contains id ||
    reg.focusHint.any fun hint => hint.primary == id || hint.linked == some id

def noteStream (reg : Registry) (callId : String) (key : StreamKey) : Registry :=
  { reg with streamIndex := GroupIndex.push callId key reg.streamIndex
             ssrcIndex := GroupIndex.push key.ssrc key reg.ssrcIndex }

/-- The owning call is read from the stream itself, which must still be there. -/
def forgetStream (reg : Registry) (key : StreamKey) : Registry :=
  let streamIndex := match reg.streams.lookup key with
    | some s => GroupIndex.forget s.callId key reg.streamIndex
    | none => reg.streamIndex
  { reg with streamIndex, ssrcIndex := GroupIndex.forget key.ssrc key reg.ssrcIndex }

def callStreamKeys (reg : Registry) (callId : String) : List StreamKey :=
  GroupIndex.members callId reg.streamIndex

def drainRemoved (reg : Registry) : List String × Registry :=
  (reg.removed, { reg with removed := [] })

def pruneHeatmap (reg : Registry) : Registry :=
  match reg.lastUs with
  | some last =>
    { reg with heatmap := reg.heatmap.pruneOlderThan (last.toNat - reg.heatmapRetainUs.toNat) }
  | none => reg

/-- What a stream has accumulated since its last attribution. -/
structure IpAttr where
  srcIp : IpAddr
  dstIp : IpAddr
  tsUs : UInt64
  pkts : UInt64
  bytes : UInt64
  lost : UInt64

def ipAttr (s : RtpStream) : IpAttr :=
  let st := s.snapshotStats
  { srcIp := s.flow.src.ip, dstIp := s.flow.dst.ip, tsUs := s.lastTsUs.getD 0
    pkts := .ofNat (st.packetCount - s.ipattrPkts), bytes := .ofNat (s.bytes - s.ipattrBytes)
    lost := .ofNat (st.lostPackets - s.ipattrLost) }

def markAttributed (s : RtpStream) : RtpStream :=
  let st := s.snapshotStats
  { s with ipattrPkts := st.packetCount, ipattrBytes := s.bytes, ipattrLost := st.lostPackets }

def attributeTo (store : IpStatsStore) (d : IpAttr) : IpStatsStore :=
  let store :=
    if 0 < d.pkts ∨ 0 < d.bytes then
      (store.observePackets d.srcIp d.tsUs d.pkts d.bytes .tx).observePackets
        d.dstIp d.tsUs d.pkts d.bytes .rx
    else store
  if 0 < d.lost then
    (store.observeLost d.srcIp d.tsUs d.lost .tx).observeLost d.dstIp d.tsUs d.lost .rx
  else store

def flushStreamIpattr (reg : Registry) (key : StreamKey) : Registry :=
  match reg.streams.lookup key with
  | some s => { reg.updateStream key markAttributed with ipstats := attributeTo reg.ipstats (ipAttr s) }
  | none => reg

/-- One stream of a removed call. -/
def dropStream (reg : Registry) (key : StreamKey) : Registry :=
  let reg := (reg.flushStreamIpattr key).forgetStream key
  { reg with streams := reg.streams.erase key }

/-- One id of `remove_calls`: the call, then its streams. -/
def dropCall (reg : Registry) (id : String) : Registry :=
  let keys := reg.callStreamKeys id
  let reg := { reg with calls := reg.calls.erase id, removed := reg.removed ++ [id]
                        streamIndex := reg.streamIndex.erase id }
  keys.foldl dropStream reg

def removeCalls (reg : Registry) (ids : List String) : Registry :=
  let reg := ids.foldl dropCall reg
  { reg with order := reg.order.filter fun id => !ids.contains id
             endpointCall := reg.endpointCall.retain fun _ id => !ids.contains id }

def removeCall (reg : Registry) (id : String) : Registry := reg.removeCalls [id]

/-- Sort key of a call at the cap: `(terminated, invite_ts, id)`. -/
def evictRank (call : String × Call) : Nat × Nat × String :=
  (call.2.state.terminal.toNat, (call.2.inviteTs.map UInt64.toNat).getD (2 ^ 64 - 1), call.1)

/-- The order of the sort keys. -/
def rankLe (a b : Nat × Nat × String) : Bool :=
  a.1 < b.1 || (a.1 == b.1 && (a.2.1 < b.2.1 || (a.2.1 == b.2.1 && decide (a.2.2 ≤ b.2.2))))

/-- The unpinned calls beyond `max_calls`, first in rank order. -/
def excessCalls (reg : Registry) : List String :=
  let evictable := reg.calls.toList.filter fun e => !reg.pinned e.1
  let ranked := (evictable.map evictRank).insertionSort fun a b => rankLe a b
  (ranked.take (reg.calls.size - reg.maxCalls)).map fun rank => rank.2.2

/-- The streams beyond `max_streams`, oldest first packet first. -/
def excessStreams (iter : Iteration) (reg : Registry) : List StreamKey :=
  let firstTs := fun s : RtpStream => (s.firstTsUs.map UInt64.toNat).getD (2 ^ 64 - 1)
  let keyed := (iter.order reg.streams.toList).insertionSort fun a b => firstTs a.2 ≤ firstTs b.2
  (keyed.take (reg.streams.size - reg.maxStreams)).map Prod.fst

/-- One stream evicted at the cap. -/
def evictStream (reg : Registry) (key : StreamKey) : Registry :=
  let reg := reg.forgetStream key
  { reg with streams := reg.streams.erase key }

def evictIfNeeded (iter : Iteration) (reg : Registry) : Registry :=
  let reg := if reg.maxCalls < reg.calls.size then reg.removeCalls reg.excessCalls else reg
  if reg.maxStreams < reg.streams.size then
    (reg.excessStreams iter).foldl evictStream reg
  else reg

/-- The last activity a TTL is measured from. -/
def idleSince (call : Call) : UInt64 :=
  if call.state.terminal then ((call.endTs.or call.byeTs).getD call.lastTsUs) else call.lastTsUs

def isStale (reg : Registry) (cutoff : Nat) (id : String) (call : Call) : Bool :=
  !reg.pinned id && idleSince call != 0 && (idleSince call).toNat < cutoff

def evictStale (iter : Iteration) (reg : Registry) (ttlSecs nowUs : UInt64) : Registry :=
  if ttlSecs = 0 ∨ nowUs = 0 then reg
  else
    let cutoff := nowUs.toNat - min (ttlSecs.toNat * 1000000) (2 ^ 64 - 1)
    let stale := (iter.order reg.calls.toList).filter fun e => reg.isStale cutoff e.1 e.2
    reg.removeCalls (stale.map Prod.fst)

/-- `touch_time`, without the packet rate. -/
def touchTime (reg : Registry) (tsUs : UInt64) : Registry :=
  { reg with startUs := reg.startUs.or (some tsUs), lastUs := some tsUs }

def getOrCreateCall (reg : Registry) (id : String) : Registry :=
  if id ∈ reg.calls then reg
  else { reg with calls := reg.calls.insert id (.new id), order := reg.order ++ [id] }

/-- The last `n` elements: what a ring of that size keeps. -/
def keepLast {α : Type} (n : Nat) (l : List α) : List α := l.drop (l.length - n)

def pushEvent (reg : Registry) (line : String) : Registry :=
  { reg with events := keepLast maxEvents (reg.events ++ [line]), eventsVer := reg.eventsVer + 1 }

def pushDiagnostic (reg : Registry) (d : Diagnostic) : Registry :=
  { reg with diagnostics := keepLast reg.maxDiagnostics (reg.diagnostics ++ [d])
             diagVer := reg.diagVer + 1 }

def recordHeatmapCell (reg : Registry) (metrics : CallMetrics) : Registry :=
  { reg with heatmap := reg.heatmap.recordCall metrics, heatVer := reg.heatVer + 1 }

/-! ## Imported streams -/

/-- The first record of the session starts its clock. -/
def ensureStart (reg : Registry) (tsUs : UInt64) : Registry :=
  { reg with startUs := reg.startUs.or (some tsUs) }

/-- `add_imported_stream`: a later summary of a stream replaces the earlier one. -/
def addImportedStream (reg : Registry) (s : StreamSummary) : Registry :=
  let key := importKey s
  if key ∈ reg.importedStreams then
    { reg with importedStreams := reg.importedStreams.modify key fun _ => s }
  else if reg.maxStreams ≤ reg.importedStreams.size then reg
  else
    { reg with
      importedByCall := if key.callId = "" then reg.importedByCall
        else GroupIndex.push key.callId key reg.importedByCall
      importedStreams := reg.importedStreams.insert key s }

/-- `import_stream_snap`: the per-IP table gets what the stream has gained since
the summary that is stored. -/
def importStreamSnap (reg : Registry) (tsUs : UInt64) (s : StreamSummary) : Registry :=
  let reg := if reg.lastUs.getD 0 < tsUs then { reg with lastUs := some tsUs } else reg
  let prev := reg.importedStreams.lookup (importKey s)
  let delta := fun (field : StreamSummary → Nat) =>
    UInt64.ofNat (field s - (prev.map field).getD 0)
  let reg := reg.addImportedStream s
  match s.flow with
  | some flow =>
    let gained : IpAttr :=
      { srcIp := flow.src.ip, dstIp := flow.dst.ip, tsUs
        pkts := delta (·.packets), bytes := delta (·.bytes), lost := delta (·.lost) }
    { reg with ipstats := attributeTo reg.ipstats gained }
  | none => reg

end Registry
end Sipmon.Source
