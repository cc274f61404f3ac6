import Sipmon.Source.Rtp
import Sipmon.Source.Packet
import Sipmon.Source.Text

/-!
# STUN and TURN datagrams (`src/decode/stun.rs`)
-/
namespace Sipmon.Source
open Lib.ByteReader (Bytes)

namespace Stun

def magicCookie : UInt32 := 0x2112A442

def methodAllocate : UInt16 := 0x003
def methodRefresh : UInt16 := 0x004
def methodSend : UInt16 := 0x006
def methodData : UInt16 := 0x007
def methodChannelBind : UInt16 := 0x009

def attrErrorCode : UInt16 := 0x0009
def attrChannelNumber : UInt16 := 0x000C
def attrLifetime : UInt16 := 0x000D
def attrXorPeerAddress : UInt16 := 0x0012
def attrData : UInt16 := 0x0013
def attrXorRelayedAddress : UInt16 := 0x0016
def attrXorMappedAddress : UInt16 := 0x0020

end Stun

inductive StunClass where
  | request | indication | success | error
  deriving DecidableEq, Repr

structure StunAttribute where
  typ : UInt16
  value : Bytes
  deriving DecidableEq

namespace StunAttribute
open Stun

/-- Class and number of an ERROR-CODE, and its reason. -/
def errorCode (attr : StunAttribute) : Option (UInt16 × String) :=
  if attr.typ ≠ attrErrorCode ∨ attr.value.length < 4 then none
  else
    let errorClass := (attr.value.getD 2 0).toUInt16
    let number := (attr.value.getD 3 0).toUInt16
    some (errorClass * 100 + number, Text.fromUtf8Lossy (attr.value.drop 4))

def channelNumber (attr : StunAttribute) : Option UInt16 :=
  if attr.typ ≠ attrChannelNumber ∨ attr.value.length < 4 then none else some (be16 attr.value 0)

def lifetime (attr : StunAttribute) : Option UInt32 :=
  if attr.typ ≠ attrLifetime ∨ attr.value.length < 4 then none else some (be32 attr.value 0)

def data (attr : StunAttribute) : Option Bytes :=
  if attr.typ = attrData then some attr.value else none

/-- The key of the XOR addresses: the magic cookie, then the transaction ID. -/
def xorKey (txnId : Bytes) : Bytes := [0x21, 0x12, 0xA4, 0x42] ++ txnId

/-- `xor_address`, by address family. -/
def xorAddress (attr : StunAttribute) (txnId : Bytes) : Option SocketAddr :=
  if (attr.typ ≠ attrXorMappedAddress ∧ attr.typ ≠ attrXorRelayedAddress ∧
      attr.typ ≠ attrXorPeerAddress) ∨ attr.value.length < 4 then none
  else
    let port := be16 attr.value 2 ^^^ (magicCookie >>> 16).toUInt16
    let octets := fun n : Nat => List.zipWith (· ^^^ ·) ((attr.value.drop 4).take n) (xorKey txnId)
    match (attr.value.getD 1 0).toNat with
    | 1 =>
      if attr.value.length < 8 then none
      else some ⟨.v4 (Ipv4Addr.ofOctets (octets 4)), port⟩
    | 2 =>
      if attr.value.length < 20 then none
      else some ⟨.v6 (Ipv6Addr.ofOctets (octets 16)), port⟩
    | _ => none

end StunAttribute

structure StunMessage where
  method : UInt16
  cls : StunClass
  txnId : Bytes
  attrs : List StunAttribute
  deriving DecidableEq

namespace StunMessage
open Stun

def errorCode (msg : StunMessage) : Option (UInt16 × String) :=
  msg.attrs.findSome? StunAttribute.errorCode

/-- The first attribute of a type, when its address can be read. -/
def addressOf (msg : StunMessage) (typ : UInt16) : Option SocketAddr :=
  (msg.attrs.find? fun a => a.typ == typ).bind fun a => a.xorAddress msg.txnId

def relayedAddress (msg : StunMessage) : Option SocketAddr := msg.addressOf attrXorRelayedAddress
def peerAddress (msg : StunMessage) : Option SocketAddr := msg.addressOf attrXorPeerAddress

def dataPayload (msg : StunMessage) : Option Bytes := msg.attrs.findSome? StunAttribute.data

end StunMessage

namespace Stun

def stunMethod (typ : UInt16) : UInt16 := (typ &&& (0x000F : UInt16)) ||| ((typ >>> (1 : UInt16)) &&& (0x0070 : UInt16))

def stunClass (typ : UInt16) : StunClass :=
  let high : UInt16 := (typ >>> 8) &&& 1
  let low : UInt16 := (typ >>> 4) &&& 1
  match ((high <<< (1 : UInt16)) ||| low).toNat with
  | 0 => .request
  | 1 => .indication
  | 2 => .success
  | _ => .error

/-- A 20-byte header with the magic cookie. -/
def isStun (data : Bytes) : Bool := 20 ≤ data.length && be32 data 4 == magicCookie

def isChannelData (data : Bytes) : Bool := 4 ≤ data.length && data.headD 0 &&& 0xC0 == 0x40

/-- The payload after the 4-byte header; what follows it is padding. -/
def channelDataPayload (data : Bytes) : Option Bytes :=
  if !isChannelData data then none
  else
    let len := (be16 data 2).toNat
    if data.length < 4 + len then none else some ((data.drop 4).take len)

/-- The attribute loop of `parse`: whole attributes, each padded to 32 bits. -/
def parseAttrs (body : Bytes) : List StunAttribute :=
  let len := (be16 body 2).toNat
  if body.length < 4 ∨ body.length < 4 + len then []
  else
    { typ := be16 body 0, value := (body.drop 4).take len } ::
      parseAttrs (body.drop (4 + (len + 3) / 4 * 4))
termination_by body.length
decreasing_by simp only [List.length_drop]; omega

def parse (data : Bytes) : Option StunMessage :=
  if !isStun data then none
  else
    let typ := be16 data 0
    let len := (be16 data 2).toNat
    if data.length < 20 + len then none
    else some
      { method := stunMethod typ, cls := stunClass typ, txnId := (data.drop 8).take 12
        attrs := parseAttrs ((data.drop 20).take len) }

end Stun
end Sipmon.Source
