import Sipmon.Lib.FiniteMap
import Sipmon.Source.Evlog.Event

/-!
# The reliability heatmap (`src/store/heatmap.rs`)
-/
namespace Sipmon.Source
open Lib (FiniteMap)
open Evlog (MetricSet)

structure Heatmap where
  bucketSecs : UInt64
  /-- Bucket start to dimension key to cell. -/
  cells : FiniteMap UInt64 (FiniteMap String MetricSet) := FiniteMap.empty

/-- What a terminated call contributes. -/
structure CallMetrics where
  tsUs : UInt64
  key : String
  answered : Bool
  failed : Bool
  pddMs : Option F64
  jitterMs : Option F64
  lossPct : Option F64
  rttMs : Option F64
  mos : Option F64

/-- A sum and its number of terms after one more optional term. -/
def addTerm (sum : F64) (n : UInt64) (term : Option F64) : F64 × UInt64 :=
  match term with
  | some x => (sum + x, n + 1)
  | none => (sum, n)

def MetricSet.record (cell : MetricSet) (call : CallMetrics) : MetricSet :=
  let pdd := addTerm cell.pddSumMs cell.pddN call.pddMs
  let jitter := addTerm cell.jitterSumMs cell.jitterN call.jitterMs
  let loss := addTerm cell.lossSumPct cell.lossN call.lossPct
  let rtt := addTerm cell.rttSumMs cell.rttN call.rttMs
  let mos := addTerm cell.mosSum cell.mosN call.mos
  { calls := cell.calls + 1
    answered := if call.answered then cell.answered + 1 else cell.answered
    failed := if call.failed then cell.failed + 1 else cell.failed
    pddSumMs := pdd.1, pddN := pdd.2, jitterSumMs := jitter.1, jitterN := jitter.2
    lossSumPct := loss.1, lossN := loss.2, rttSumMs := rtt.1, rttN := rtt.2
    mosSum := mos.1, mosN := mos.2 }

namespace Heatmap

def new (bucketSecs : UInt64) : Heatmap := { bucketSecs }

def bucketOf (map : Heatmap) (tsUs : UInt64) : UInt64 :=
  tsUs / 1000000 / max map.bucketSecs 1 * map.bucketSecs * 1000000

def recordCall (map : Heatmap) (call : CallMetrics) : Heatmap :=
  { map with cells := map.cells.upsert (map.bucketOf call.tsUs) fun row =>
      (row.getD FiniteMap.empty).upsert call.key fun cell =>
        MetricSet.record (cell.getD {}) call }

def pruneOlderThan (map : Heatmap) (cutoffUs : Nat) : Heatmap :=
  { map with cells := map.cells.retain fun bucket _ => cutoffUs ≤ bucket.toNat }

end Heatmap
end Sipmon.Source
