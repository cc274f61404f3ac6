import Sipmon.Source.F64
import Sipmon.Source.Rtp
import Sipmon.Source.Text

/-!
# Stream statistics (`src/analyze/media_stats.rs`, `src/analyze/mos.rs`)

RFC 3550 jitter and loss with a 64-packet reorder window, and the simplified
E-model. The packet counters are natural numbers.
-/
namespace Sipmon.Source

def rtpReorderWindow : Nat := 64
def rtpRestartWindow : Nat := 4096
def jitterDiscontMs : F64 := 1000

/-- `count_ones`. -/
def countOnes {w : Nat} (mask : BitVec w) : Nat := (List.range w).countP fun i => mask.getLsbD i

structure MediaStatsAccumulator where
  packetCount : Nat := 0
  lostPackets : Nat := 0
  restarts : Nat := 0
  payloadType : Option UInt8 := none
  clockRate : Option UInt32 := none
  firstSequence : Option UInt16 := none
  lastSequence : Option UInt16 := none
  /-- Bit `age - 1` is set while the packet `lastSequence - age` is missing. -/
  pendingMask : BitVec 64 := 0
  prevArrivalMicros : Option UInt64 := none
  prevRtpTimestamp : Option UInt32 := none
  jitterRtpUnits : F64 := 0
  jitterSamples : Nat := 0
  deriving DecidableEq

structure MediaStats where
  packetCount : Nat
  lostPackets : Nat
  expectedPackets : Nat
  lossPercent : F64
  restarts : Nat
  jitterMs : Option F64
  payloadType : Option UInt8
  clockRate : Option UInt32
  deriving DecidableEq

/-- The signed distance of two wrapping RTP timestamps. -/
def rtpTsDelta (cur prev : UInt32) : Int :=
  let forward := cur - prev
  if forward.toNat ≤ 2147483647 then forward.toNat else -((prev - cur).toNat : Int)

namespace MediaStatsAccumulator

def setClockRate (acc : MediaStatsAccumulator) (rate : UInt32) : MediaStatsAccumulator :=
  if rate = 0 then acc
  else
    let rescaled := match acc.clockRate with
      | some old =>
        if old ≠ 0 ∧ old ≠ rate then
          acc.jitterRtpUnits * (.ofNat rate.toNat / .ofNat old.toNat)
        else acc.jitterRtpUnits
      | none => acc.jitterRtpUnits
    { acc with jitterRtpUnits := rescaled, clockRate := some rate }

/-- `last` advances by `diff`: pending bits that leave the window are lost, the
gap before `seq` becomes pending as far as the window reaches. -/
def forward (acc : MediaStatsAccumulator) (seq : UInt16) (diff : Nat) : MediaStatsAccumulator :=
  if rtpRestartWindow < diff then
    { acc with pendingMask := 0, restarts := acc.restarts + 1, lastSequence := some seq }
  else
    let (expired, shifted) :=
      if 64 ≤ diff then (countOnes acc.pendingMask, 0)
      else (countOnes (acc.pendingMask >>> (64 - diff)), acc.pendingMask <<< diff)
    let missing := diff - 1
    let buffered := min missing rtpReorderWindow
    { acc with
      lostPackets := acc.lostPackets + expired + (missing - buffered)
      pendingMask := if 64 ≤ buffered then BitVec.allOnes 64
        else shifted ||| (1#64 <<< buffered - 1#64)
      lastSequence := some seq }

/-- A packet from before `last` clears its pending bit while it is in the window. -/
def reordered (acc : MediaStatsAccumulator) (age : Nat) : MediaStatsAccumulator :=
  if 0 < age ∧ age ≤ rtpReorderWindow then
    { acc with pendingMask := acc.pendingMask &&& ~~~(1#64 <<< (age - 1)) }
  else acc

def observeSequence (acc : MediaStatsAccumulator) (seq : UInt16) : MediaStatsAccumulator :=
  if acc.firstSequence.isNone then
    { acc with firstSequence := some seq, lastSequence := some seq }
  else match acc.lastSequence with
    | none => { acc with lastSequence := some seq }
    | some last =>
      let diff := (seq - last).toNat
      if diff = 0 then acc
      else if diff < 0x8000 then acc.forward seq diff
      else acc.reordered (last - seq).toNat

def observeJitter (acc : MediaStatsAccumulator) (arrivalUs : UInt64) (rtpTs clockRate : UInt32) :
    MediaStatsAccumulator :=
  let rate : F64 := .ofNat clockRate.toNat
  let sampled := match acc.prevArrivalMicros, acc.prevRtpTimestamp with
    | some prevArr, some prevRtp =>
      let arrDelta : F64 := .ofInt ((arrivalUs.toNat : Int) - prevArr.toNat)
      let delta := (arrDelta * rate / 1000000 - F64.ofInt (rtpTsDelta rtpTs prevRtp)).abs
      -- a hold or a timestamp reset is no jitter
      if delta.isFinite = true ∧ 0 < clockRate ∧ delta * 1000 / rate ≤ jitterDiscontMs then
        { acc with jitterRtpUnits := acc.jitterRtpUnits + (delta - acc.jitterRtpUnits) / 16
                   jitterSamples := acc.jitterSamples + 1 }
      else acc
    | _, _ => acc
  { sampled with prevArrivalMicros := some arrivalUs, prevRtpTimestamp := some rtpTs }

/-- `observe` with a header; `new` packets without one only count. -/
def observe (acc : MediaStatsAccumulator) (arrivalMicros : UInt64) (header : RtpHeader) :
    MediaStatsAccumulator :=
  let clockRate := acc.clockRate.getD (rtpClockRateForPayloadType header.payloadType)
  let counted := { acc with
    packetCount := acc.packetCount + 1
    payloadType := acc.payloadType.or (some header.payloadType)
    clockRate := some clockRate }
  (counted.observeSequence header.sequenceNumber).observeJitter arrivalMicros header.timestamp
    clockRate

def snapshot (acc : MediaStatsAccumulator) : MediaStats :=
  let lost := acc.lostPackets + countOnes acc.pendingMask
  let expected := acc.packetCount + lost
  { packetCount := acc.packetCount
    lostPackets := lost
    expectedPackets := expected
    lossPercent := if 0 < expected then .ofNat lost / .ofNat expected * 100 else 0
    restarts := acc.restarts
    jitterMs := acc.clockRate.bind fun rate =>
      if 0 < acc.jitterSamples ∧ 0 < rate then
        some (acc.jitterRtpUnits * 1000 / .ofNat rate.toNat)
      else none
    payloadType := acc.payloadType
    clockRate := acc.clockRate }

end MediaStatsAccumulator

/-! ## MOS -/

/-- `contains_ci`: substring test with ASCII case folded. -/
def containsCi (haystack needle : String) : Bool :=
  Text.contains (Text.toAsciiLowercase needle.toList) (Text.toAsciiLowercase haystack.toList)

/-- `(Ie, Bpl)` of ITU-T G.107 for a codec. -/
def codecParams (codec : Option String) (pt : Option UInt8) : F64 × F64 :=
  let c := codec.getD ""
  if containsCi c "PCMU" || containsCi c "PCMA" || containsCi c "G.711" then (0, 25.1)
  else if containsCi c "G.729" then (10, 19)
  else if containsCi c "G.723" then (15, 13)
  else if containsCi c "G.722" then (4, 15.7)
  else if containsCi c "OPUS" || containsCi c "TELEPHONE" then (0, 25)
  else if pt = some 0 ∨ pt = some 8 then (0, 25.1)
  else (10, 10)

def delayImpairment (onewayMs : F64) : F64 :=
  let d := onewayMs.max 0
  0.024 * d + 0.11 * (d - 177.3).max 0

def equipmentImpairment (codec : Option String) (pt : Option UInt8) (lossPct : F64) : F64 :=
  let (ie, bpl) := codecParams codec pt
  let p := lossPct.max 0
  ie + (95 - ie) * p / (p / 1 + bpl)

def estimateMos (codec : Option String) (pt : Option UInt8) (lossPct : F64)
    (onewayMs jitterMs : Option F64) : Option F64 :=
  let dejitter := F64.max 40 (jitterMs.getD 0 * 3)
  let d := onewayMs.getD 0 + dejitter
  let r := (93.2 - delayImpairment d - equipmentImpairment codec pt lossPct).clamp 0 100
  let mos := if 100 ≤ r then 4.5 else 1 + 0.035 * r + 7e-6 * r * (r - 60) * (100 - r)
  some (mos.clamp 1 4.5)

end Sipmon.Source
