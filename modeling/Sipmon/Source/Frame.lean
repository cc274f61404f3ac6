import Sipmon.Source.Ingest
import Sipmon.Source.SipDecode

/-!
# From frames to messages (`src/correlate/mod.rs`)

What one captured packet does, from its transport payload on. The link, network
and transport headers are read in `FrameDecode`.
-/
namespace Sipmon.Source
open Lib (Iteration)
open Lib.ByteReader (Bytes)

/-- The options of the decoding path, and the SIP parser it calls. -/
structure Decoder where
  noMedia : Bool
  rawTruncate : Option Nat
  parseMessage : SipParser

/-- The transport payload of a packet. -/
inductive L4 where
  | udp (payload : Bytes)
  | tcp (payload : Bytes)
  deriving DecidableEq

namespace Correlator

def ingestRtcpAll (c : Correlator) (ts : UInt64) (flow : Flow5Tuple) (msgs : List RtcpMessage) :
    Correlator :=
  msgs.foldl (fun c m => c.ingestRtcp ts flow m) c

/-- `dispatch_media`: media bytes, possibly unwrapped from TURN. -/
def dispatchMedia (c : Correlator) (ts : UInt64) (flow : Flow5Tuple) (bytes : Bytes)
    (encap : Encap) : Correlator :=
  match classify bytes with
  | .rtp => match parseRtpHeader bytes with
    | some h => c.ingestRtp ts flow h bytes.length encap
    | none => c
  | .rtcp => c.ingestRtcpAll ts flow (parseAll bytes)
  | .other => c

/-- What is neither media nor SIP: TURN signaling and TURN-wrapped media. -/
def handleTurn (c : Correlator) (ts : UInt64) (flow : Flow5Tuple) (payload : Bytes) : Correlator :=
  if Stun.isStun payload then
    let (turn, diags, media) := c.turn.ingest ts flow payload
    let c := { c with turn }.addDiagnostics diags
    media.foldl (fun c m => c.dispatchMedia ts flow m .sendIndication) c
  else match Stun.channelDataPayload payload with
    | some inner => c.dispatchMedia ts flow inner .channelData
    | none => c

/-- `handle_udp`: media first, then SIP, then TURN. -/
def handleUdp (dec : Decoder) (iter : Iteration) (c : Correlator) (ts : UInt64) (flow : Flow5Tuple)
    (payload : Bytes) : Correlator :=
  if !dec.noMedia && classify payload != .other then c.dispatchMedia ts flow payload .direct
  else if looksLikeSip payload then
    match parseSip dec.parseMessage dec.rawTruncate ts flow payload with
    | some msg => c.ingestSip iter msg
    | none => c
  else if dec.noMedia then c
  else c.handleTurn ts flow payload

/-- The SIP messages a TCP segment completes, each with its own pass order. -/
def ingestSegments (dec : Decoder) (ts : UInt64) (flow : Flow5Tuple) (iters : Nat → Iteration)
    (c : Correlator) (msgs : List Bytes) : Correlator :=
  msgs.zipIdx.foldl (fun c (msg, i) =>
    match parseSip dec.parseMessage dec.rawTruncate ts flow msg with
    | some sip => c.ingestSip (iters i) sip
    | none => c) c

/-- `ingest_frame`, on a packet whose headers are decoded; `none` when the TCP
reassembly does not return within `fuel` iterations. -/
def ingestFrame (dec : Decoder) (iters : Nat → Iteration) (fuel : Nat) (c : Correlator)
    (ts : UInt64) (decoded : Option (Flow5Tuple × L4)) : Option Correlator :=
  let c := { c with reg := c.reg.touchTime ts }
  match decoded with
  | none => some c
  | some (flow, .udp payload) => some (c.handleUdp dec (iters 0) ts flow payload)
  | some (flow, .tcp payload) =>
    (TcpReassembler.feed fuel c.tcpReasm flow payload ts).map fun (msgs, tcpReasm) =>
      ingestSegments dec ts flow iters { c with tcpReasm } msgs

end Correlator
end Sipmon.Source
