import Sipmon.Source.Evlog.Event
import Sipmon.Source.MediaStats
import Sipmon.Source.Turn

/-!
# RTP streams (`src/correlate/stream.rs`)
-/
namespace Sipmon.Source
open Evlog (StreamSnapEvt)

/-- One periodic sample of a stream (`src/model/media.rs`). -/
structure RatePoint where
  tsUs : UInt64
  bytes : Nat
  packets : Nat
  lossPct : F64
  jitterMs : Option F64
  mos : Option F64
  deriving DecidableEq

structure StreamSummary where
  callId : Option String
  ssrc : UInt32
  flow : Option Flow5Tuple
  codec : Option String
  payloadType : Option UInt8
  packets : Nat
  lost : Nat
  expected : Nat
  lossPct : F64
  jitterMs : Option F64
  firstTsUs : Option UInt64
  lastTsUs : Option UInt64
  rttMinMs : Option F64
  rttAvgMs : Option F64
  rttMaxMs : Option F64
  onewayMs : Option F64
  mos : Option F64
  direction : Option String
  leg : Option String
  viaTurn : Bool
  bytes : Nat
  history : List RatePoint
  deriving DecidableEq

structure RtpStream where
  flow : Flow5Tuple
  ssrc : UInt32
  callId : String
  payloadType : Option UInt8 := none
  clockRate : Option UInt32 := none
  codec : Option String := none
  direction : Option String := none
  firstTsUs : Option UInt64 := none
  lastTsUs : Option UInt64 := none
  lastPt : Option UInt8 := none
  acc : MediaStatsAccumulator := {}
  rttSamples : List F64 := []
  onewaySamples : List F64 := []
  reverseSeen : Bool := false
  leg : Option Leg := none
  viaTurn : Bool := false
  turnNoteEmitted : Bool := false
  bytes : Nat := 0
  history : List RatePoint := []
  lastSampleBytes : Nat := 0
  lastSamplePackets : Nat := 0
  ipattrPkts : Nat := 0
  ipattrBytes : Nat := 0
  ipattrLost : Nat := 0
  deriving DecidableEq

def mean (v : List F64) : Option F64 :=
  if v.isEmpty then none else some (v.foldl (· + ·) 0 / .ofNat v.length)

def minOpt (a : Option F64) (b : F64) : Option F64 := some ((a.map (·.min b)).getD b)
def maxOpt (a : Option F64) (b : F64) : Option F64 := some ((a.map (·.max b)).getD b)

namespace RtpStream

def sampleWindowUs : Nat := 5000000
def maxSamples : Nat := 120
/-- Bound of the RTT and one-way sample lists. -/
def maxTimings : Nat := 256

def new (flow : Flow5Tuple) (ssrc : UInt32) (callId : String) : RtpStream := { flow, ssrc, callId }

def applyClockRate (stream : RtpStream) (rate : UInt32) : RtpStream :=
  if rate = 0 then stream
  else { stream with clockRate := some rate, acc := stream.acc.setClockRate rate }

def observe (stream : RtpStream) (tsUs : UInt64) (header : RtpHeader) (len : Nat) : RtpStream :=
  let touched := { stream with
    firstTsUs := stream.firstTsUs.or (some tsUs)
    lastTsUs := some tsUs
    bytes := stream.bytes + len
    payloadType := stream.payloadType.or (some header.payloadType) }
  let clocked := if touched.clockRate.isNone then
      touched.applyClockRate (rtpClockRateForPayloadType header.payloadType)
    else touched
  { clocked with acc := clocked.acc.observe tsUs header, lastPt := some header.payloadType }

/-- The one-way delay: its own samples, else half the mean RTT. -/
def onewayAvg (stream : RtpStream) : Option F64 :=
  (mean stream.onewaySamples).or ((mean stream.rttSamples).map (· / 2))

def mos (stream : RtpStream) (lossPct : F64) (jitterMs : Option F64) : Option F64 :=
  estimateMos stream.codec stream.payloadType lossPct stream.onewayAvg jitterMs

/-- `sample`: at most one point per window, the oldest dropped past the bound. -/
def sample (stream : RtpStream) (tsUs : UInt64) : RtpStream :=
  if stream.history.getLast?.any fun last => tsUs.toNat - last.tsUs.toNat < sampleWindowUs then
    stream
  else
    let st := stream.acc.snapshot
    let point : RatePoint :=
      { tsUs
        bytes := stream.bytes - stream.lastSampleBytes
        packets := st.packetCount - stream.lastSamplePackets
        lossPct := st.lossPercent
        jitterMs := st.jitterMs
        mos := stream.mos st.lossPercent st.jitterMs }
    let history := stream.history ++ [point]
    { stream with
      history := if maxSamples < history.length then history.drop 1 else history
      lastSampleBytes := stream.bytes
      lastSamplePackets := st.packetCount }

def snapshotStats (stream : RtpStream) : MediaStats := stream.acc.snapshot

def summary (stream : RtpStream) : StreamSummary :=
  let st := stream.snapshotStats
  { callId := some stream.callId, ssrc := stream.ssrc, flow := some stream.flow
    codec := stream.codec, payloadType := stream.payloadType
    packets := st.packetCount, lost := st.lostPackets, expected := st.expectedPackets
    lossPct := st.lossPercent, jitterMs := st.jitterMs
    firstTsUs := stream.firstTsUs, lastTsUs := stream.lastTsUs
    rttMinMs := stream.rttSamples.foldl minOpt none
    rttAvgMs := mean stream.rttSamples
    rttMaxMs := stream.rttSamples.foldl maxOpt none
    onewayMs := stream.onewayAvg
    mos := stream.mos st.lossPercent st.jitterMs
    direction := stream.direction, leg := stream.leg.map Leg.label, viaTurn := stream.viaTurn
    bytes := stream.bytes, history := stream.history }

/-- `to_snap_evt`: the numbers of `summary` without the history. -/
def toSnapEvt (stream : RtpStream) (tsUs : UInt64) : StreamSnapEvt :=
  let s := stream.summary
  { tsUs, callId := stream.callId, ssrc := stream.ssrc, flow := stream.flow, codec := s.codec
    payloadType := s.payloadType
    packets := .ofNat s.packets, lost := .ofNat s.lost, expected := .ofNat s.expected
    lossPct := s.lossPct, jitterMs := s.jitterMs, mos := s.mos, direction := s.direction
    bytes := .ofNat s.bytes, firstTsUs := s.firstTsUs, lastTsUs := s.lastTsUs
    rttMinMs := s.rttMinMs, rttAvgMs := s.rttAvgMs, rttMaxMs := s.rttMaxMs
    onewayMs := s.onewayMs, leg := s.leg, viaTurn := s.viaTurn }

/-- Append to a sample list, dropping the oldest past the bound. -/
def pushTiming (samples : List F64) (x : F64) : List F64 :=
  let grown := samples ++ [x]
  if maxTimings < grown.length then grown.drop 1 else grown

/-- Attach one RTCP sample. -/
def addTiming (stream : RtpStream) (rtt oneway : Option F64) : RtpStream :=
  { stream with
    rttSamples := match rtt with
      | some r => pushTiming stream.rttSamples r
      | none => stream.rttSamples
    onewaySamples := match oneway with
      | some o => pushTiming stream.onewaySamples o
      | none => stream.onewaySamples }

end RtpStream
end Sipmon.Source
