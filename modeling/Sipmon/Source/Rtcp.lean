import Sipmon.Source.F64
import Sipmon.Source.Rtp

/-!
# RTCP (`src/decode/rtcp.rs`, `src/analyze/rtcp_rtt.rs`)
-/
namespace Sipmon.Source
open Lib.ByteReader (Bytes)

structure ReportBlock where
  ssrc : UInt32
  fractionLost : UInt8
  cumulativeLost : Int
  highestSeq : UInt32
  jitter : UInt32
  lsr : UInt32
  dlsr : UInt32
  deriving DecidableEq, Repr

structure SenderInfo where
  ntpSecs : UInt32
  ntpFrac : UInt32
  rtpTimestamp : UInt32
  senderPacketCount : UInt32
  senderOctetCount : UInt32
  deriving DecidableEq, Repr

structure SrReport where
  ssrc : UInt32
  sender : SenderInfo
  reports : List ReportBlock
  deriving DecidableEq

structure RrReport where
  ssrc : UInt32
  reports : List ReportBlock
  deriving DecidableEq

inductive RtcpMessage where
  | sr (report : SrReport)
  | rr (report : RrReport)
  | other (pt : UInt8)
  deriving DecidableEq

def ptSr : UInt8 := 200
def ptRr : UInt8 := 201

/-- The signed 24-bit number at an offset. -/
def beI24 (bs : Bytes) (i : Nat) : Int :=
  let n := Lib.BigEndian.ofBytes ((bs.drop i).take 3)
  if n < 2 ^ 23 then n else n - 2 ^ 24

def reportBlock (b : Bytes) : ReportBlock :=
  { ssrc := be32 b 0, fractionLost := b.getD 4 0, cumulativeLost := beI24 b 5
    highestSeq := be32 b 8, jitter := be32 b 12, lsr := be32 b 16, dlsr := be32 b 20 }

/-- `parse_report_blocks`: up to `count` whole blocks. -/
def parseReportBlocks (member : Bytes) : Nat → List ReportBlock
  | 0 => []
  | count + 1 =>
    if member.length < 24 then []
    else reportBlock member :: parseReportBlocks (member.drop 24) count

/-- One member of a compound packet; an SR too short for its sender info is skipped. -/
def parseMember (member : Bytes) : Option RtcpMessage :=
  let count := (member.getD 0 0 &&& 0x1f).toNat
  let pt := member.getD 1 0
  if member.length < 8 then none
  else if pt = ptSr then
    if member.length < 28 then none
    else some (.sr
      { ssrc := be32 member 4
        sender :=
          { ntpSecs := be32 member 8, ntpFrac := be32 member 12, rtpTimestamp := be32 member 16
            senderPacketCount := be32 member 20, senderOctetCount := be32 member 24 }
        reports := parseReportBlocks (member.drop 28) count })
  else if pt = ptRr then
    some (.rr { ssrc := be32 member 4, reports := parseReportBlocks (member.drop 8) count })
  else some (.other pt)

/-- `parse_all`: the members of a compound packet, up to the first truncated one. -/
def parseAll (payload : Bytes) : List RtcpMessage :=
  let memberBytes := ((be16 payload 2).toNat + 1) * 4
  if payload.length < 4 ∨ payload.length < memberBytes then []
  else (parseMember (payload.take memberBytes)).toList ++ parseAll (payload.drop memberBytes)
termination_by payload.length
decreasing_by simp only [List.length_drop]; omega

/-! ## Round-trip and one-way times -/

def ntpToSeconds (secs frac : UInt32) : F64 :=
  .ofNat secs.toNat + .ofNat frac.toNat / .ofNat 4294967295

/-- `unix_us_to_ntp_secs`. -/
def unixUsToNtpSecs (tsUs : UInt64) : F64 :=
  let secs := .ofNat (tsUs.toNat / 1000000) + .ofNat 2208988800
  secs + .ofNat (tsUs.toNat % 1000000) / 1000000

/-- `rtt_from_rr`, in units of 1/65536 s modulo 2^32. -/
def rttFromRr (arrivalNtpSecs : F64) (block : ReportBlock) : Option F64 :=
  if block.lsr = 0 then none
  else
    let arrivalMid32 : F64 := .ofNat ((arrivalNtpSecs * 65536).toU64.toNat % 2 ^ 32)
    let diff := arrivalMid32 - .ofNat block.lsr.toNat - .ofNat block.dlsr.toNat
    let diff := if diff < 0 then diff + 4294967296 else diff
    if 0 ≤ diff ∧ diff ≤ 3932160 then some (diff / 65536 * 1000) else none

/-- `oneway_from_sr`. -/
def onewayFromSr (arrivalNtpSecs : F64) (sr : SrReport) : Option F64 :=
  let sent := ntpToSeconds sr.sender.ntpSecs sr.sender.ntpFrac
  let d := arrivalNtpSecs - sent
  let d := if d < 0 then d + 4294967296 else d
  if 0 ≤ d ∧ d ≤ 60 then some (d * 1000) else none

end Sipmon.Source
