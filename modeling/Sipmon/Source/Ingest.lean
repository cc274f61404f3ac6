import Sipmon.Source.Correlator

/-!
# Ingesting messages (`src/correlate/mod.rs`)

`Op` lists the entry points of the correlator and `step` runs one of them.
-/
namespace Sipmon.Source
open Lib (FiniteMap Iteration)
open Lib.ByteReader (Bytes)
open Evlog (Event SipMsgEvt RtcpRttEvt)

/-- `is_public`. -/
def IpAddr.isPublic : IpAddr → Bool
  | .v4 ip =>
    !ip.isPrivate && !ip.isLoopback && !ip.isLinkLocal && !ip.isUnspecified && !ip.isBroadcast
  | .v6 ip => !ip.isLoopback && !ip.isUnicastLinkLocal

/-- `body_of`: the bytes after the first empty line. -/
def bodyOf : Bytes → Bytes
  | [] => []
  | b :: rest =>
    if [13, 10, 13, 10].isPrefixOf (b :: rest) then (b :: rest).drop 4 else bodyOf rest

namespace NegotiatedMedia

/-- The SDP clock of `pt`, else the default of the payload type. -/
def clockRateForPt (neg : NegotiatedMedia) (pt : UInt8) : UInt32 :=
  let sdp := (neg.pts.findIdx? (· == pt)).bind fun i => neg.clockRates[i]?
  (sdp.filter (0 < ·)).getD (rtpClockRateForPayloadType pt)

/-- The codec listed at the position of `pt`. -/
def codecForPt (neg : NegotiatedMedia) (pt : UInt8) : Option String :=
  (neg.pts.findIdx? (· == pt)).bind fun i => neg.codecs[i]?

def ofSession (sess : SdpSession) : NegotiatedMedia :=
  let pts := sess.payloadTypes
  { endpoints := sess.endpoints, pts
    codecs := pts.filterMap sess.codecNameForPt
    clockRates := pts.map fun pt =>
      (sess.clockRateForPt pt).getD (rtpClockRateForPayloadType pt) }

/-- One payload type of an answer, added when it is new. -/
def addPt (answer : NegotiatedMedia) (neg : NegotiatedMedia) (pt : UInt8) : NegotiatedMedia :=
  if pt ∈ neg.pts then neg
  else { neg with pts := neg.pts ++ [pt]
                  clockRates := neg.clockRates ++ [answer.clockRateForPt pt] }

/-- Merge an SDP into what the call has negotiated. -/
def merge (neg n : NegotiatedMedia) : NegotiatedMedia :=
  if neg.pts.isEmpty then n
  else
    let neg := { neg with endpoints := neg.endpoints ++ n.endpoints }
    let neg := n.pts.foldl n.addPt neg
    { neg with codecs := n.codecs.foldl (fun acc name =>
        if name ∈ acc then acc else acc ++ [name]) neg.codecs }

end NegotiatedMedia

namespace Correlator

/-! ## SIP -/

def peerIsPublic (flow : Flow5Tuple) : Bool := flow.src.ip.isPublic || flow.dst.ip.isPublic

/-- The first 2xx of an INVITE is credited to the source of the initial INVITE. -/
def answerForIp (c : Correlator) (msg : SipMsg) : Option IpAddr :=
  let code := (msg.status.getD 0).toNat
  if !msg.isRequest && (200 ≤ code && code < 300) && msg.cseqIs "INVITE" then
    (c.reg.calls.lookup msg.callId).bind fun call =>
      if call.answerTs.isNone && call.inviteTs.isSome then call.inviteKey else none
  else none

/-- Signaling statistics and the bookkeeping of an initial INVITE. -/
def observeSip (c : Correlator) (msg : SipMsg) : Correlator :=
  let obs : SipObs :=
    { ip := msg.flow.src.ip, tsUs := msg.tsUs, isRequest := msg.isRequest, method := msg.method
      status := msg.status, answerForIp := c.answerForIp msg, initialInvite := msg.isInitialInvite }
  let c := { c with reg := { c.reg with sipstats := c.reg.sipstats.observe obs } }
  if msg.isInitialInvite then
    let ipstats := (c.reg.ipstats.addActive msg.flow.src.ip 1).addActive msg.flow.dst.ip 1
    { c with
      inviteRr := c.inviteRr.upsert msg.callId fun present =>
        present.getD (decide (0 < msg.recordRouteCount))
      reg := { c.reg with ipstats } }
  else c

/-- The SDP of a message, when it carries one that parses. -/
def sdpOf (msg : SipMsg) : Option SdpSession := if msg.hasSdp then parseSdp (bodyOf msg.raw) else none

def messageDiagnostics (c : Correlator) (msg : SipMsg) : List Diagnostic :=
  let inviteHadRr := (c.inviteRr.lookup msg.callId).getD false
  checkContact msg.tsUs msg.callId msg (peerIsPublic msg.flow) ++
    checkRecordRoute msg.tsUs msg.callId msg inviteHadRr ++
    ((sdpOf msg).map (checkSdp msg.tsUs msg.callId)).getD []

def maxMsgsPerCall : Nat := 2000

/-- The call after the message: state machine, retention, negotiated media. -/
def receive (msg : SipMsg) (learned : Option NegotiatedMedia) (call : Call) : Call :=
  let call := call.applySip msg
  let call := { call with messages := Registry.keepLast maxMsgsPerCall (call.messages ++ [msg]) }
  match learned with
  | some n => { call with negotiated := call.negotiated.merge n }
  | none => call

def sipMsgEvt (msg : SipMsg) : SipMsgEvt :=
  { tsUs := msg.tsUs, flow := msg.flow, isRequest := msg.isRequest
    method := msg.method.map Method.name, status := msg.status, callId := msg.callId
    cseq := msg.cseq, branch := msg.branch, fromTag := msg.fromTag, toTag := msg.toTag
    raw := msg.raw }

/-- Give a stream the clock its call has negotiated for its payload type. -/
def reclock (neg : NegotiatedMedia) (stream : RtpStream) : RtpStream :=
  match stream.lastPt.or stream.payloadType with
  | some pt => if pt ∈ neg.pts then stream.applyClockRate (neg.clockRateForPt pt) else stream
  | none => stream

/-- `apply_sdp_clocks`. -/
def applySdpClocks (c : Correlator) (callId : String) : Correlator :=
  match c.reg.calls.lookup callId with
  | some call =>
    let keys := c.reg.callStreamKeys callId
    let reg := keys.foldl (fun reg key => reg.updateStream key (reclock call.negotiated)) c.reg
    { c with reg }
  | none => c

/-- Register the SDP endpoints of a call for RTP association. -/
def learnEndpoints (c : Correlator) (callId : String) (n : NegotiatedMedia) : Correlator :=
  let endpointCall := n.endpoints.foldl (fun m ep => m.insert ep callId) c.reg.endpointCall
  { c with reg := { c.reg with endpointCall } }.applySdpClocks callId

/-- What an SDP teaches, when the message carried one. -/
def learnSdp (c : Correlator) (callId : String) (learned : Option NegotiatedMedia) : Correlator :=
  match learned with
  | some n => c.learnEndpoints callId n
  | none => c

/-- The call table after the message. -/
def storeMessage (c : Correlator) (msg : SipMsg) (learned : Option NegotiatedMedia) : Correlator :=
  { c with reg := (c.reg.getOrCreateCall msg.callId).updateCall msg.callId (receive msg learned) }

def callTerminal (c : Correlator) (callId : String) : Bool :=
  (c.reg.calls.lookup callId).any fun call => call.state.terminal

/-- Terminal transition handling, latched by `terminal_done`. -/
def latchTerminal (iter : Iteration) (c : Correlator) (callId : String) : Correlator :=
  if c.callTerminal callId && decide (callId ∉ c.terminalDone) then
    { c with terminalDone := insert callId c.terminalDone }.onCallTerminal iter callId
  else c

/-- `ingest_sip`. -/
def ingestSip (iter : Iteration) (c : Correlator) (msg : SipMsg) : Correlator :=
  let c := c.observeSip msg
  let diags := c.messageDiagnostics msg
  let learned := (sdpOf msg).map NegotiatedMedia.ofSession
  let c := (c.storeMessage msg learned).learnSdp msg.callId learned
  let c := (c.pushEv (.sipMsg (sipMsgEvt msg))).addDiagnostics diags
  c.latchTerminal iter msg.callId

/-! ## RTP -/

/-- A packet counted on its call. -/
def countRtp (ts : UInt64) (call : Call) : Call :=
  { call with pktsRtp := call.pktsRtp + 1, lastTsUs := ts }

/-- The hot path: a stream that is already tracked. -/
def observeExistingRtp (c : Correlator) (ts : UInt64) (header : RtpHeader) (len : Nat)
    (key : StreamKey) (stream : RtpStream) : Correlator :=
  let reg := (c.reg.updateStream key (·.observe ts header len)).updateCall stream.callId (countRtp ts)
  let ptDiag := checkPtChange ts stream.callId header.ssrc header.payloadType stream.lastPt
  { c with reg }.addDiagnostics ptDiag.toList

/-- The call an RTP flow belongs to: its source endpoint first, then its destination. -/
def callOfFlow (reg : Registry) (flow : Flow5Tuple) : Option String :=
  (reg.endpointCall.lookup flow.src).or (reg.endpointCall.lookup flow.dst)

/-- Whether the TURN note of a stream is due. -/
def turnNoteDue (stream : RtpStream) (encap : Encap) (leg : Option Leg) : Bool :=
  !stream.turnNoteEmitted && (encap != .direct || leg.isSome)

/-- A stream created by its first packet. -/
def openStream (neg : Option NegotiatedMedia) (leg : Option Leg) (encap : Encap)
    (reverseExists : Bool) (ts : UInt64) (header : RtpHeader) (len : Nat) (stream : RtpStream) :
    RtpStream :=
  let stream := match neg with
    | some neg =>
      { stream with codec := neg.codecForPt header.payloadType }.applyClockRate
        (neg.clockRateForPt header.payloadType)
    | none => stream
  let stream := { stream with
    viaTurn := stream.viaTurn || leg.isSome || encap != Encap.direct
    leg := leg.or stream.leg
    turnNoteEmitted := stream.turnNoteEmitted || turnNoteDue stream encap leg }
  let stream := stream.observe ts header len
  { stream with reverseSeen := stream.reverseSeen || reverseExists }

/-- The diagnostics of a stream's first packet. -/
def openDiagnostics (callId : String) (neg : Option NegotiatedMedia) (leg : Option Leg)
    (encap : Encap) (note : Bool) (ts : UInt64) (flow : Flow5Tuple) (header : RtpHeader) :
    List Diagnostic :=
  let negDiags := match neg with
    | some neg => (checkRtpPt ts callId header.ssrc header.payloadType neg).toList ++
        (checkRtpFlow ts callId flow neg).toList
    | none => []
  let carried := fun (code : DiagCode) (wrap : String) =>
    diag ts callId .info code ("RTP ssrc=" ++ hexPrefixed header.ssrc.toNat ++ " carried in " ++
      wrap ++ " on " ++ flow.display)
  let encapDiags := match note, encap with
    | true, .channelData => [carried .turnChannelMedia "TURN ChannelData"]
    | true, .sendIndication => [carried .turnSendIndMedia "TURN Send/Data indication"]
    | _, _ => []
  let legDiags := match note, leg with
    | true, some l => [diag ts callId .info .turnRelayMedia
        ("media relayed via TURN (" ++ l.label ++ "-leg) on " ++ flow.display)]
    | _, _ => []
  negDiags ++ encapDiags ++ legDiags

/-- The call of a new stream: its media addresses and its relay mark. -/
def noteMedia (flow : Flow5Tuple) (relayed : Bool) (call : Call) : Call :=
  let add := fun (ips : List IpAddr) (ip : IpAddr) => if ip ∈ ips then ips else ips ++ [ip]
  { call with ips := add (add call.ips flow.src.ip) flow.dst.ip
              viaTurn := call.viaTurn || relayed }

/-- A flow that is not tracked yet. -/
def openRtp (c : Correlator) (ts : UInt64) (flow : Flow5Tuple) (header : RtpHeader) (len : Nat)
    (encap : Encap) (callId : String) : Correlator :=
  let key : StreamKey := { flow, ssrc := header.ssrc }
  let reverseExists := (c.reg.callStreamKeys callId).any fun k => k.flow == flow.reverse
  let leg := c.turn.legOf flow
  let neg := (c.reg.calls.lookup callId).map Call.negotiated
  let stream := (c.reg.streams.lookup key).getD (.new flow header.ssrc callId)
  let note := turnNoteDue stream encap leg
  let opened := openStream neg leg encap reverseExists ts header len stream
  let reg := { c.reg with streams := c.reg.streams.insert key opened }.noteStream callId key
  let reg := reg.updateCall callId (noteMedia flow (leg.isSome || encap != .direct))
  let c := { c with reg }.addDiagnostics (openDiagnostics callId neg leg encap note ts flow header)
  let reg := if reverseExists then
      c.reg.updateStream { flow := flow.reverse, ssrc := header.ssrc } fun s =>
        { s with reverseSeen := true }
    else c.reg
  { c with reg := reg.updateCall callId (countRtp ts) }

/-- `ingest_rtp`. -/
def ingestRtp (c : Correlator) (ts : UInt64) (flow : Flow5Tuple) (header : RtpHeader) (len : Nat)
    (encap : Encap) : Correlator :=
  let key : StreamKey := { flow, ssrc := header.ssrc }
  match c.reg.streams.lookup key with
  | some stream => c.observeExistingRtp ts header len key stream
  | none => match callOfFlow c.reg flow with
    | some callId => c.openRtp ts flow header len encap callId
    | none => c

/-! ## RTCP -/

/-- One value an RTCP message reports about the streams of an SSRC. -/
structure RtcpSample where
  ssrc : UInt32
  rttMs : Option F64
  onewayMs : Option F64
  deriving DecidableEq

def senderSsrc : RtcpMessage → UInt32
  | .rr report => report.ssrc
  | .sr report => report.ssrc
  | .other _ => 0

def rttSamples (arrivalNtp : F64) (reports : List ReportBlock) : List RtcpSample :=
  reports.filterMap fun b => (rttFromRr arrivalNtp b).map fun rtt =>
    { ssrc := b.ssrc, rttMs := some rtt, onewayMs := none }

def rtcpSamples (ts : UInt64) (msg : RtcpMessage) : List RtcpSample :=
  let arrivalNtp := unixUsToNtpSecs ts
  match msg with
  | .rr report => rttSamples arrivalNtp report.reports
  | .sr report =>
    let oneway := (onewayFromSr arrivalNtp report).map fun d =>
      { ssrc := report.ssrc, rttMs := none, onewayMs := some d }
    oneway.toList ++ rttSamples arrivalNtp report.reports
  | .other _ => []

def ssrcKeys (reg : Registry) (ssrc : UInt32) : List StreamKey := Lib.GroupIndex.members ssrc reg.ssrcIndex

/-- The call an RTCP packet is counted on: that of the first stream of its SSRC. -/
def callOfSsrc (reg : Registry) (ssrc : UInt32) : Option String :=
  if ssrc = 0 then none
  else ((ssrcKeys reg ssrc).head?.bind reg.streams.lookup).map RtpStream.callId

def countRtcp (ts : UInt64) (call : Call) : Call :=
  { call with pktsRtcp := call.pktsRtcp + 1, lastTsUs := ts }

/-- Attach a sample to every stream of its SSRC; an RTT is reported for the call
of the last of them. -/
def attachSample (ts : UInt64) (c : Correlator) (sample : RtcpSample) : Correlator :=
  let keys := ssrcKeys c.reg sample.ssrc
  let callId := (keys.filterMap fun k => (c.reg.streams.lookup k).map RtpStream.callId).getLast?
  let reg := keys.foldl (fun reg k =>
    reg.updateStream k (·.addTiming sample.rttMs sample.onewayMs)) c.reg
  let c := { c with reg }
  match callId, sample.rttMs with
  | some callId, some rttMs =>
    c.pushEv (.rtcpRtt { tsUs := ts, callId, ssrc := sample.ssrc, rttMs, onewayMs := sample.onewayMs })
  | _, _ => c

/-- `ingest_rtcp`; the flow the message arrived on is not used. -/
def ingestRtcp (c : Correlator) (ts : UInt64) (_flow : Flow5Tuple) (msg : RtcpMessage) : Correlator :=
  let c := match callOfSsrc c.reg (senderSsrc msg) with
    | some callId => { c with reg := c.reg.updateCall callId (countRtcp ts) }
    | none => c
  (rtcpSamples ts msg).foldl (attachSample ts) c

/-! ## Steps -/

/-- The entry points of the correlator. -/
inductive Op where
  | sip (msg : SipMsg)
  | rtp (ts : UInt64) (flow : Flow5Tuple) (header : RtpHeader) (len : Nat) (encap : Encap)
  | rtcp (ts : UInt64) (flow : Flow5Tuple) (msg : RtcpMessage)
  | terminal (callId : String)
  | flush (ts : UInt64)
  | clear
  | touchTime (ts : UInt64)
  | focus (hint : Option FocusHint)
  | search (q : Option String)
  | takeEvents
  | disableEvlogEmit
  | enableSessionStats

/-- One operation, with the order in which its passes visit the hash tables. -/
def step (c : Correlator) (input : Iteration × Op) : Correlator :=
  match input.2 with
  | .sip msg => c.ingestSip input.1 msg
  | .rtp ts flow header len encap => c.ingestRtp ts flow header len encap
  | .rtcp ts flow msg => c.ingestRtcp ts flow msg
  | .terminal callId => c.onCallTerminal input.1 callId
  | .flush ts => c.maybePeriodicFlush input.1 ts
  | .clear => c.clear
  | .touchTime ts => { c with reg := c.reg.touchTime ts }
  | .focus hint => c.setFocus hint
  | .search q => c.setSearch input.1 q
  | .takeEvents => c.takeEvents.2
  | .disableEvlogEmit => c.disableEvlogEmit
  | .enableSessionStats => c.enableSessionStats

def run (c : Correlator) (inputs : List (Iteration × Op)) : Correlator := inputs.foldl step c

end Correlator
end Sipmon.Source
