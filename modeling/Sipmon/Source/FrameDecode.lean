import Sipmon.Lib.CheckedAccess
import Sipmon.Source.Frame

/-!
# Link, network and transport headers (`src/decode/frame.rs`)

The fast path of the frame decoder, with every index and every slice checked. The
full parser of a third party, which takes unusual encapsulations, is a parameter.
-/
namespace Sipmon.Source.FrameDecode
open Lib.ByteReader (Bytes)
open Lib.CheckedAccess (Checked index slice)

/-! ## Datalink types -/

def dltNull : UInt32 := 0
def dltEn10mb : UInt32 := 1
def dltRaw : UInt32 := 12
def dltLoop : UInt32 := 108
def dltLinuxSll : UInt32 := 113
def dltLinuxSll2 : UInt32 := 276

/-- A flow and its transport payload. -/
structure Decoded where
  flow : Flow5Tuple
  l4 : L4
  deriving DecidableEq

inductive Fast where
  | hit (d : Decoded)
  /-- Not IP, or neither UDP nor TCP. -/
  | miss
  /-- Unusual encapsulation: left to the full parser. -/
  | fallback
  deriving DecidableEq

inductive FastL2 where
  | ip (packet : Bytes)
  | miss
  | fallback

/-- `u16::from_be_bytes([data[i], data[i + 1]])`. -/
def be16At (data : Bytes) (i : Nat) : Checked UInt16 := do
  let high ← index data i
  let low ← index data (i + 1)
  return UInt16.ofNat (high.toNat * 256 + low.toNat)

def ethertypePayload (ethertype : UInt16) (rest : Bytes) : FastL2 :=
  if ethertype = 0x0800 ∨ ethertype = 0x86dd then .ip rest else .miss

/-- 802.1Q, QinQ, and the vendor tag. -/
def isVlan (ethertype : UInt16) : Bool :=
  ethertype == 0x8100 || ethertype == 0x88a8 || ethertype == 0x9100

/-- At most so many VLAN tags from an offset on; `none` when one is cut off. -/
def skipTags (data : Bytes) : Nat → UInt16 → Nat → Checked (Option (UInt16 × Nat))
  | 0, ethertype, off => .ok (some (ethertype, off))
  | n + 1, ethertype, off =>
    if !isVlan ethertype then .ok (some (ethertype, off))
    else if data.length < off + 4 then .ok none
    else do
      let inner ← be16At data (off + 2)
      skipTags data n inner (off + 4)

def ethernetPayload (data : Bytes) : Checked FastL2 :=
  if data.length < 14 then .ok .miss
  else do
    let ethertype ← be16At data 12
    match ← skipTags data 2 ethertype 14 with
    | some (ethertype, off) => return ethertypePayload ethertype (data.drop off)
    | none => return .miss

def l2Payload (linktype : UInt32) (data : Bytes) : Checked FastL2 :=
  if linktype = dltNull ∨ linktype = dltLoop then
    if data.length < 4 then .ok .miss else .ip <$> slice data 4 data.length
  else if linktype = dltEn10mb then ethernetPayload data
  else if linktype = dltRaw then .ok (.ip data)
  else if linktype = dltLinuxSll then
    if data.length < 16 then .ok .miss
    else do
      let ethertype ← be16At data 14
      let rest ← slice data 16 data.length
      return ethertypePayload ethertype rest
  else if linktype = dltLinuxSll2 then
    if data.length < 20 then .ok .miss
    else do
      let ethertype ← be16At data 0
      let rest ← slice data 20 data.length
      return ethertypePayload ethertype rest
  else .ok .fallback

def parseL4 (proto : UInt8) (srcIp dstIp : IpAddr) (l4 : Bytes) : Checked Fast :=
  if proto = 17 then
    if l4.length < 8 then .ok .miss
    else do
      let srcPort ← be16At l4 0
      let dstPort ← be16At l4 2
      let ulen ← be16At l4 4
      let payload ←
        if 8 ≤ ulen.toNat ∧ ulen.toNat ≤ l4.length then slice l4 8 ulen.toNat
        else slice l4 8 l4.length
      return .hit
        { flow := { proto := .udp, src := ⟨srcIp, srcPort⟩, dst := ⟨dstIp, dstPort⟩ }
          l4 := .udp payload }
  else if proto = 6 then
    if l4.length < 20 then .ok .miss
    else do
      let srcPort ← be16At l4 0
      let dstPort ← be16At l4 2
      let offset ← index l4 12
      let doff := (offset >>> 4).toNat * 4
      if doff < 20 ∨ l4.length < doff then return .miss
      else
        let payload ← slice l4 doff l4.length
        return .hit
          { flow := { proto := .tcp, src := ⟨srcIp, srcPort⟩, dst := ⟨dstIp, dstPort⟩ }
            l4 := .tcp payload }
  else .ok .miss

/-- Four octets from an index on. -/
def ipv4At (data : Bytes) (i : Nat) : Checked IpAddr := do
  let a ← index data i
  let b ← index data (i + 1)
  let c ← index data (i + 2)
  let d ← index data (i + 3)
  return .v4 ⟨a, b, c, d⟩

def parseIpv4 (data : Bytes) : Checked Fast :=
  if data.length < 20 then .ok .miss
  else do
    let first ← index data 0
    let ihl := (first &&& 0x0f).toNat * 4
    if ihl < 20 ∨ data.length < ihl then return .miss
    else
      let frag ← be16At data 6
      if frag &&& (0x1fff : UInt16) ≠ 0 then return .miss
      else
        let proto ← index data 9
        let src ← ipv4At data 12
        let dst ← ipv4At data 16
        let total ← be16At data 2
        let ipEnd := if ihl ≤ total.toNat ∧ total.toNat ≤ data.length then total.toNat else data.length
        let l4 ← slice data ihl ipEnd
        parseL4 proto src dst l4

def parseIpv6 (data : Bytes) : Checked Fast :=
  if data.length < 40 then .ok .miss
  else do
    let next ← index data 6
    if next ≠ 6 ∧ next ≠ 17 then return if next = 58 then .miss else .fallback
    else
      let src ← slice data 8 24
      let dst ← slice data 24 40
      let payloadLen ← be16At data 4
      let last :=
        if 0 < payloadLen.toNat then min (40 + payloadLen.toNat) data.length else data.length
      if last < 40 then return .miss
      else
        let l4 ← slice data 40 last
        parseL4 next (.v6 (.ofOctets src)) (.v6 (.ofOctets dst)) l4

def decodeFast (linktype : UInt32) (data : Bytes) : Checked Fast := do
  match ← l2Payload linktype data with
  | .ip packet =>
    if packet.isEmpty then return .miss
    else
      let first ← index packet 0
      if first >>> 4 = 4 then parseIpv4 packet
      else if first >>> 4 = 6 then parseIpv6 packet
      else return .miss
  | .miss => return .miss
  | .fallback => return .fallback

/-- `decode`, with the full parser as a parameter. -/
def decode (etherparse : UInt32 → Bytes → Option Decoded) (linktype : UInt32) (data : Bytes) :
    Checked (Option Decoded) := do
  match ← decodeFast linktype data with
  | .hit d => return some d
  | .miss => return none
  | .fallback => return etherparse linktype data

end Sipmon.Source.FrameDecode
