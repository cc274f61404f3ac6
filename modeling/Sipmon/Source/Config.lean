import Sipmon.Source.Packet

/-!
# Configuration (`src/config.rs`)

The options the correlator reads.
-/
namespace Sipmon.Source

/-- Granularity of the heatmap. -/
inductive BucketWidth where
  | fifteenMin | oneHour | oneDay
  deriving DecidableEq, Repr

def BucketWidth.seconds : BucketWidth → UInt64
  | .fifteenMin => 900
  | .oneHour => 3600
  | .oneDay => 86400

structure Config where
  bucket : BucketWidth := .fifteenMin
  ringHours : UInt64 := 24
  maxCalls : Nat := 100000
  maxStreams : Nat := 50000
  maxDiagnostics : Nat := 50000
  diagLevel : String := "warn"
  turnServers : List IpAddr := []
  callTtlSecs : UInt64 := 15 * 60
  keepTerminated : Bool := true

end Sipmon.Source
