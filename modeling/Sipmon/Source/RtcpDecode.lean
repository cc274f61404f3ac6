import Sipmon.Source.FrameDecode
import Sipmon.Source.Rtcp

/-!
# Decoding compound RTCP (`src/decode/rtcp.rs:79-166`)

The loops with their offsets, every index and every slice checked.
-/
namespace Sipmon.Source.RtcpDecode
open Lib.ByteReader (Bytes)
open Lib.CheckedAccess (Checked index slice)
open FrameDecode (be16At)

/-- `u32::from_be_bytes` of the four bytes from an index on. -/
def be32At (data : Bytes) (i : Nat) : Checked UInt32 := do
  let a ← index data i
  let b ← index data (i + 1)
  let c ← index data (i + 2)
  let d ← index data (i + 3)
  return UInt32.ofNat (Lib.BigEndian.ofBytes [a, b, c, d])

/-- `i32::from_be_bytes([b[5], b[6], b[7], 0]) >> 8`: the shift extends the sign. -/
def cumulativeLostAt (b : Bytes) : Checked Int := do
  let high ← index b 5
  let mid ← index b 6
  let low ← index b 7
  return ((BitVec.ofNat 32 (Lib.BigEndian.ofBytes [high, mid, low, 0])).sshiftRight 8).toInt

def reportBlockAt (b : Bytes) : Checked ReportBlock := do
  let ssrc ← be32At b 0
  let fractionLost ← index b 4
  let cumulativeLost ← cumulativeLostAt b
  let highestSeq ← be32At b 8
  let jitter ← be32At b 12
  let lsr ← be32At b 16
  let dlsr ← be32At b 20
  return { ssrc, fractionLost, cumulativeLost, highestSeq, jitter, lsr, dlsr }

/-- `parse_report_blocks`: `count` blocks from an offset on, as far as the member reaches. -/
def parseReportBlocks (member : Bytes) : Nat → Nat → Checked (List ReportBlock)
  | _, 0 => .ok []
  | off, count + 1 =>
    if member.length < off + 24 then .ok []
    else do
      let b ← slice member off (off + 24)
      let block ← reportBlockAt b
      let blocks ← parseReportBlocks member (off + 24) count
      return block :: blocks

def senderInfoAt (member : Bytes) : Checked SenderInfo := do
  let ntpSecs ← be32At member 8
  let ntpFrac ← be32At member 12
  let rtpTimestamp ← be32At member 16
  let senderPacketCount ← be32At member 20
  let senderOctetCount ← be32At member 24
  return { ntpSecs, ntpFrac, rtpTimestamp, senderPacketCount, senderOctetCount }

/-- The body of the loop of `parse_all`. -/
def memberMessage (member : Bytes) (rcOrFmt : Nat) (pt : UInt8) : Checked (Option RtcpMessage) :=
  if member.length < 8 then .ok none
  else do
    let ssrc ← be32At member 4
    if pt = ptSr then
      if member.length < 28 then return none
      else
        let sender ← senderInfoAt member
        let reports ← parseReportBlocks member 28 rcOrFmt
        return some (.sr { ssrc, sender, reports })
    else if pt = ptRr then
      let reports ← parseReportBlocks member 8 rcOrFmt
      return some (.rr { ssrc, reports })
    else return some (.other pt)

/-- `parse_all` from an offset on. -/
def parseAllFrom (payload : Bytes) (off : Nat) : Checked (List RtcpMessage) :=
  if _ : payload.length < off + 4 then .ok []
  else do
    let first ← index payload off
    let pt ← index payload (off + 1)
    let lenWords ← be16At payload (off + 2)
    let memberBytes := (lenWords.toNat + 1) * 4
    if payload.length < off + memberBytes then return []
    else
      let member ← slice payload off (off + memberBytes)
      let message ← memberMessage member (first &&& 0x1f).toNat pt
      let messages ← parseAllFrom payload (off + memberBytes)
      return message.toList ++ messages
termination_by payload.length - off

/-- `parse_all`. -/
def parseAll (payload : Bytes) : Checked (List RtcpMessage) := parseAllFrom payload 0

end Sipmon.Source.RtcpDecode
