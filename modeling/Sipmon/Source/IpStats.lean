import Sipmon.Lib.FiniteMap
import Sipmon.Source.F64
import Sipmon.Source.Packet

/-!
# Per-IP network statistics (`src/store/ipstats.rs`)

Totals per direction and two rings of time buckets, with the window queries of
the UI over them. The counters are 64 bits wide and wrap.
-/
namespace Sipmon.Source
open Lib (FiniteMap)

/-- Loss-rate windows of the UI in seconds, with their labels; 0 is all-time. -/
def windows : List (Nat × String) :=
  [(1, "1s"), (5, "5s"), (10, "10s"), (20, "20s"), (60, "1m"), (600, "10m"), (3600, "1h"), (0, "all")]

/-- `tx`: the IP sent the packet; `rx`: it received the packet. -/
inductive Dir where
  | tx | rx
  deriving DecidableEq, Repr

structure Bucket where
  pktsTx : UInt64 := 0
  pktsRx : UInt64 := 0
  lostTx : UInt64 := 0
  lostRx : UInt64 := 0
  bytesTx : UInt64 := 0
  bytesRx : UInt64 := 0
  deriving DecidableEq, Repr

namespace Bucket

def packets (b : Bucket) : UInt64 := b.pktsTx + b.pktsRx
def lost (b : Bucket) : UInt64 := b.lostTx + b.lostRx

def pktsOf (b : Bucket) : Dir → UInt64
  | .tx => b.pktsTx
  | .rx => b.pktsRx

def lostOf (b : Bucket) : Dir → UInt64
  | .tx => b.lostTx
  | .rx => b.lostRx

def bytesOf (b : Bucket) : Dir → UInt64
  | .tx => b.bytesTx
  | .rx => b.bytesRx

end Bucket

structure IpStats where
  ip : IpAddr
  activeCalls : Nat := 0
  pktsTx : UInt64 := 0
  pktsRx : UInt64 := 0
  lostTx : UInt64 := 0
  lostRx : UInt64 := 0
  bytesTx : UInt64 := 0
  bytesRx : UInt64 := 0
  firstSeenUs : Option UInt64 := none
  lastSeenUs : Option UInt64 := none
  sec1 : List (Nat × Bucket) := []
  sec60 : List (Nat × Bucket) := []
  deriving DecidableEq

def sec1Retain : Nat := 600
def sec60Retain : Nat := 60

/-- Key of the newest bucket. -/
def ringTail (ring : List (Nat × Bucket)) : Nat := (ring.getLast?.map Prod.fst).getD 0

/-- Append `n` empty buckets after the tail; past `retain` each one pushes the oldest out. -/
def advanceRing (retain : Nat) : Nat → List (Nat × Bucket) → List (Nat × Bucket)
  | 0, ring => ring
  | n + 1, ring =>
    let grown := ring ++ [(ringTail ring + 1, {})]
    advanceRing retain n (if ring.length < retain then grown else grown.drop 1)

/-- `bucket_mut` and the update of the bucket it returns: the ring is aligned
forward to the bucket of `tsUs`; a timestamp behind the tail finds its bucket or
falls into the oldest. -/
def bucketMut (ring : List (Nat × Bucket)) (tsUs : UInt64) (widthUs retain : Nat)
    (update : Bucket → Bucket) : List (Nat × Bucket) :=
  let key := tsUs.toNat / widthUs
  if ring.isEmpty then [(key, update {})]
  else
    let aligned := advanceRing retain (key - ringTail ring) ring
    let i := if ringTail aligned = key then aligned.length - 1
      else (aligned.findIdx? fun e => e.1 == key).getD 0
    aligned.modify i fun e => (e.1, update e.2)

namespace IpStats

def new (ip : IpAddr) : IpStats := { ip }

/-- The same update on both rings. -/
def bump (s : IpStats) (tsUs : UInt64) (update : Bucket → Bucket) : IpStats :=
  { s with sec1 := bucketMut s.sec1 tsUs 1000000 sec1Retain update
           sec60 := bucketMut s.sec60 tsUs 60000000 sec60Retain update }

def addPackets (s : IpStats) (tsUs count bytes : UInt64) (dir : Dir) : IpStats :=
  if count = 0 ∧ bytes = 0 then s
  else
    let seen := { s with firstSeenUs := s.firstSeenUs.or (some tsUs), lastSeenUs := some tsUs }
    match dir with
    | .tx =>
      { seen with pktsTx := s.pktsTx + count, bytesTx := s.bytesTx + bytes }.bump tsUs fun b =>
        { b with pktsTx := b.pktsTx + count, bytesTx := b.bytesTx + bytes }
    | .rx =>
      { seen with pktsRx := s.pktsRx + count, bytesRx := s.bytesRx + bytes }.bump tsUs fun b =>
        { b with pktsRx := b.pktsRx + count, bytesRx := b.bytesRx + bytes }

def addLost (s : IpStats) (tsUs lost : UInt64) (dir : Dir) : IpStats :=
  if lost = 0 then s
  else
    let seen := { s with lastSeenUs := s.lastSeenUs.or (some tsUs) }
    match dir with
    | .tx => { seen with lostTx := s.lostTx + lost }.bump tsUs fun b =>
        { b with lostTx := b.lostTx + lost }
    | .rx => { seen with lostRx := s.lostRx + lost }.bump tsUs fun b =>
        { b with lostRx := b.lostRx + lost }

/-- `saturating_add_signed` on a 32-bit counter. -/
def activeAdd (s : IpStats) (delta : Int) : IpStats :=
  { s with activeCalls := min ((s.activeCalls : Int) + delta).toNat (2 ^ 32 - 1) }

def pktsTotal (s : IpStats) : Dir → UInt64
  | .tx => s.pktsTx
  | .rx => s.pktsRx

def lostTotal (s : IpStats) : Dir → UInt64
  | .tx => s.lostTx
  | .rx => s.lostRx

def bytesTotal (s : IpStats) : Dir → UInt64
  | .tx => s.bytesTx
  | .rx => s.bytesRx

/-- `sum_ring`: packets and lost packets over the last `n` buckets. -/
def sumRing (ring : List (Nat × Bucket)) (n : Nat) (dir : Dir) : UInt64 × UInt64 :=
  (ring.reverse.take n).foldl (fun sum e => (sum.1 + e.2.pktsOf dir, sum.2 + e.2.lostOf dir)) (0, 0)

/-- Packets and lost packets over the last `windowSecs`. -/
def window (s : IpStats) (windowSecs : Nat) (dir : Dir) : UInt64 × UInt64 :=
  if windowSecs = 0 then (s.pktsTotal dir, s.lostTotal dir)
  else if windowSecs ≤ sec1Retain then sumRing s.sec1 windowSecs dir
  else sumRing s.sec60 ((windowSecs + 59) / 60) dir

def bytesIn (s : IpStats) (windowSecs : Nat) (dir : Dir) : UInt64 :=
  if windowSecs = 0 then s.bytesTotal dir
  else
    let (ring, n) := if windowSecs ≤ sec1Retain then (s.sec1, windowSecs)
      else (s.sec60, (windowSecs + 59) / 60)
    (ring.reverse.take n).foldl (fun bytes e => bytes + e.2.bytesOf dir) 0

/-- `map.entry(g).or_default()` of the sorted map, with the addition to it. -/
def columnAdd (g : Nat) (packets lost : UInt64) :
    List (Nat × UInt64 × UInt64) → List (Nat × UInt64 × UInt64)
  | [] => [(g, packets, lost)]
  | (h, p, l) :: rest =>
    if h = g then (h, p + packets, l + lost) :: rest
    else if g < h then (g, packets, lost) :: (h, p, l) :: rest
    else (h, p, l) :: columnAdd g packets lost rest

def columnPct (packets lost : UInt64) : F64 :=
  if packets = 0 then 0 else F64.ofNat lost.toNat / F64.ofNat packets.toNat * 100

/-- `heatmap_columns`: the start of each column in microseconds and its loss. -/
def heatmapColumns (s : IpStats) (windowSecs cols : Nat) : List (Nat × F64) :=
  let (ring, bucketUs, secsPerKey) :=
    if windowSecs ≤ sec1Retain * 10 then (s.sec1, 1000000, 1) else (s.sec60, 60000000, 60)
  let group := max (windowSecs / secsPerKey / cols) 1
  let map := ring.foldl (fun map e => columnAdd (e.1 / group) e.2.packets e.2.lost map) []
  map.map fun (g, p, l) => (g * group * bucketUs, columnPct p l)

end IpStats

abbrev IpStatsStore := FiniteMap IpAddr IpStats

namespace IpStatsStore

/-- Update the row of an IP, created on first use. -/
def entry (store : IpStatsStore) (ip : IpAddr) (update : IpStats → IpStats) : IpStatsStore :=
  store.upsert ip fun present => update (present.getD (.new ip))

def observePackets (store : IpStatsStore) (ip : IpAddr) (tsUs count bytes : UInt64) (dir : Dir) :
    IpStatsStore :=
  store.entry ip (·.addPackets tsUs count bytes dir)

def observeLost (store : IpStatsStore) (ip : IpAddr) (tsUs lost : UInt64) (dir : Dir) :
    IpStatsStore :=
  store.entry ip (·.addLost tsUs lost dir)

def addActive (store : IpStatsStore) (ip : IpAddr) (delta : Int) : IpStatsStore :=
  store.entry ip (·.activeAdd delta)

def pruneIdle (store : IpStatsStore) (cutoffUs : Nat) : IpStatsStore :=
  store.retain fun _ s => 0 < s.activeCalls || cutoffUs ≤ (s.lastSeenUs.getD 0).toNat

end IpStatsStore
end Sipmon.Source
