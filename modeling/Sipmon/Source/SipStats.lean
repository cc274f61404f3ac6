import Sipmon.Lib.FiniteMap
import Sipmon.Source.Sip

/-!
# Per-IP signaling statistics (`src/store/sipstats.rs`)
-/
namespace Sipmon.Source
open Lib (FiniteMap)

def reqN : Nat := 9
def respN : Nat := 15

/-- Column of a request method. -/
def reqIdx : Method → Nat
  | .invite => 0
  | .ack => 1
  | .bye => 2
  | .cancel => 3
  | .options => 4
  | .info => 5
  | .register => 6
  | .message => 7
  | _ => 8

/-- Column of a status code: the listed codes, then the classes. -/
def respIdx (status : UInt16) : Nat :=
  match status.toNat with
  | 100 => 0
  | 180 => 1
  | 183 => 2
  | 200 => 3
  | 486 => 4
  | 404 => 5
  | 403 => 6
  | 408 => 7
  | 480 => 8
  | 487 => 9
  | code =>
    if 300 ≤ code ∧ code ≤ 399 then 10
    else if 400 ≤ code ∧ code ≤ 499 then 11
    else if 500 ≤ code ∧ code ≤ 599 then 12
    else if 600 ≤ code ∧ code ≤ 699 then 13
    else 14

def seriesRetain : Nat := 60
def m1Us : Nat := 60 * 1000000
def m5Us : Nat := 300 * 1000000
def m15Us : Nat := 900 * 1000000

structure SipIpStats where
  req : List Nat := List.replicate reqN 0
  resp : List Nat := List.replicate respN 0
  /-- Buckets `(start, invites, answered)`, oldest first, in three widths. -/
  m1 : List (Nat × Nat × Nat) := []
  m5 : List (Nat × Nat × Nat) := []
  m15 : List (Nat × Nat × Nat) := []
  lastTsUs : Option UInt64 := none
  deriving DecidableEq

/-- One SIP message offered to the store. -/
structure SipObs where
  ip : IpAddr
  tsUs : UInt64
  isRequest : Bool
  method : Option Method
  status : Option UInt16
  answerForIp : Option IpAddr
  initialInvite : Bool

/-- Empty buckets from `next` up to `key`, while the ring has room. -/
def fillGaps (bucketUs key : Nat) : Nat → Nat → List (Nat × Nat × Nat) → List (Nat × Nat × Nat)
  | 0, _, ring => ring
  | fuel + 1, next, ring =>
    if next < key ∧ ring.length < seriesRetain then
      fillGaps bucketUs key fuel (next + bucketUs) (ring ++ [(next, 0, 0)])
    else ring

/-- `ring_bump`. -/
def ringBump (ring : List (Nat × Nat × Nat)) (bucketUs : Nat) (tsUs : UInt64) (inv ans : Nat) :
    List (Nat × Nat × Nat) :=
  let key := tsUs.toNat / bucketUs * bucketUs
  let add : Nat × Nat × Nat → Nat × Nat × Nat := fun (k, i, a) => (k, i + inv, a + ans)
  if inv = 0 ∧ ans = 0 then ring
  else match ring.getLast? with
  | none => [(key, inv, ans)]
  | some (lastKey, _, _) =>
    if key = lastKey then ring.modify (ring.length - 1) add
    else if lastKey < key then
      if bucketUs * seriesRetain < key - lastKey then [(key, inv, ans)]
      else
        let filled := fillGaps bucketUs key seriesRetain (lastKey + bucketUs) ring
        filled.drop (filled.length + 1 - seriesRetain) ++ [(key, inv, ans)]
    else match ring.findIdx? fun e => e.1 == key with
      | some i => ring.modify i add
      | none => ring

namespace SipIpStats

/-- Heatmap bucket widths in seconds. -/
def seriesBuckets : List Nat := [60, 300, 900]

/-- `series`: the ring of a bucket width. -/
def series (s : SipIpStats) (bucketSecs : Nat) : List (Nat × Nat × Nat) :=
  match bucketSecs with
  | 300 => s.m5
  | 900 => s.m15
  | _ => s.m1

/-- `series_totals`: invites and answers over the whole ring. -/
def seriesTotals (s : SipIpStats) (bucketSecs : Nat) : Nat × Nat :=
  (s.series bucketSecs).foldl (fun (i, a) (_, inv, ans) => (i + inv, a + ans)) (0, 0)

def totalMsgs (s : SipIpStats) : Nat := s.req.sum + s.resp.sum

def bumpSeries (s : SipIpStats) (tsUs : UInt64) (inv ans : Nat) : SipIpStats :=
  { s with m1 := ringBump s.m1 m1Us tsUs inv ans
           m5 := ringBump s.m5 m5Us tsUs inv ans
           m15 := ringBump s.m15 m15Us tsUs inv ans }

def touch (s : SipIpStats) (tsUs : UInt64) : SipIpStats :=
  { s with lastTsUs := some (max tsUs (s.lastTsUs.getD 0)) }

def applyDist (s : SipIpStats) (o : SipObs) : SipIpStats :=
  let counted :=
    if o.isRequest then
      let s := { s with req := s.req.modify ((o.method.map reqIdx).getD (reqN - 1)) (· + 1) }
      if o.initialInvite then s.bumpSeries o.tsUs 1 0 else s
    else match o.status with
      | some code => { s with resp := s.resp.modify (respIdx code) (· + 1) }
      | none => s
  counted.touch o.tsUs

def applyAnswer (s : SipIpStats) (tsUs : UInt64) : SipIpStats :=
  (s.bumpSeries tsUs 0 1).touch tsUs

end SipIpStats

structure SipStatsStore where
  ips : FiniteMap IpAddr SipIpStats := FiniteMap.empty
  all : SipIpStats := {}

namespace SipStatsStore

def entry (store : SipStatsStore) (ip : IpAddr) (update : SipIpStats → SipIpStats) :
    SipStatsStore :=
  { store with ips := store.ips.upsert ip fun present => update (present.getD {}) }

def observe (store : SipStatsStore) (o : SipObs) : SipStatsStore :=
  let store := store.entry o.ip (·.applyDist o)
  let store := { store with all := store.all.applyDist o }
  match o.answerForIp with
  | some ip =>
    let store := store.entry ip (·.applyAnswer o.tsUs)
    { store with all := store.all.applyAnswer o.tsUs }
  | none => store

def pruneIdle (store : SipStatsStore) (cutoffUs : Nat) : SipStatsStore :=
  { store with ips := store.ips.retain fun _ s => cutoffUs ≤ (s.lastTsUs.getD 0).toNat }

end SipStatsStore
end Sipmon.Source
