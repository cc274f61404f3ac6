import Sipmon.Lib.BigEndian
import Sipmon.Lib.ByteReader

/-!
# RTP headers (`src/decode/rtp.rs`)
-/
namespace Sipmon.Source
open Lib.ByteReader (Bytes)

structure RtpHeader where
  version : UInt8
  payloadType : UInt8
  sequenceNumber : UInt16
  timestamp : UInt32
  ssrc : UInt32
  deriving DecidableEq, Repr

/-- `u16::from_be_bytes` at an offset. -/
def be16 (bs : Bytes) (i : Nat) : UInt16 := UInt16.ofNat (Lib.BigEndian.ofBytes ((bs.drop i).take 2))

/-- `u32::from_be_bytes` at an offset. -/
def be32 (bs : Bytes) (i : Nat) : UInt32 := UInt32.ofNat (Lib.BigEndian.ofBytes ((bs.drop i).take 4))

/-- Version bits of the first byte. -/
def rtpVersion (payload : Bytes) : UInt8 := payload.headD 0 >>> 6

def isRtpLike (payload : Bytes) : Bool := 2 ≤ payload.length && rtpVersion payload == 2

def parseRtpHeader (payload : Bytes) : Option RtpHeader :=
  if payload.length < 12 ∨ rtpVersion payload ≠ 2 then none
  else some
    { version := 2
      payloadType := payload.getD 1 0 &&& 0x7f
      sequenceNumber := be16 payload 2
      timestamp := be32 payload 4
      ssrc := be32 payload 8 }

inductive MediaKind where
  | rtp | rtcp | other
  deriving DecidableEq, Repr

/-- RTCP packet types 200 to 207 use the whole second byte. -/
def classify (payload : Bytes) : MediaKind :=
  if !isRtpLike payload then .other
  else
    let ptByte := payload.getD 1 0
    if 200 ≤ ptByte ∧ ptByte ≤ 207 then .rtcp else .rtp

def rtpClockRateForPayloadType (payloadType : UInt8) : UInt32 :=
  if payloadType = 0 ∨ payloadType = 8 ∨ payloadType = 9 ∨ payloadType = 18 then 8000
  else if 96 ≤ payloadType ∧ payloadType ≤ 127 then 48000
  else 8000

end Sipmon.Source
