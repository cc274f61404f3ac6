import Sipmon.Source.Sdp
import Sipmon.Source.Sip

/-!
# Diagnostics (`src/diagnostics/mod.rs`, `src/diagnostics/rules.rs`)
-/
namespace Sipmon.Source

inductive Severity where
  | info | warn | critical
  deriving DecidableEq, Repr

/-- Position in the derived order. -/
def Severity.rank : Severity → Nat
  | .info => 0
  | .warn => 1
  | .critical => 2

def Severity.label : Severity → String
  | .info => "INFO"
  | .warn => "WARN"
  | .critical => "CRIT"

def Severity.fromLevel (level : String) : Severity :=
  let text := String.ofList (Text.toAsciiLowercase level.toList)
  if text = "critical" ∨ text = "crit" then .critical
  else if text = "info" then .info
  else .warn

/-- The stable identifiers the modelled rules emit. -/
inductive DiagCode where
  | contactUnreachable | contactPrivateNat | contactMcast | rrNotHonored | sdpHold
  | rtpPtMismatch | rtpFlowUnexpected | rtpPtChanged | oneWayMedia
  | turnAllocOk | turnAllocFailed | turnRefreshFailed
  | turnRelayMedia | turnChannelMedia | turnSendIndMedia | turnLegImbalance
  deriving DecidableEq, Repr

def DiagCode.text : DiagCode → String
  | .contactUnreachable => "CONTACT_UNREACHABLE"
  | .contactPrivateNat => "CONTACT_PRIVATE_NAT"
  | .contactMcast => "CONTACT_MCAST"
  | .rrNotHonored => "RR_NOT_HONORED"
  | .sdpHold => "SDP_HOLD"
  | .rtpPtMismatch => "RTP_PT_MISMATCH"
  | .rtpFlowUnexpected => "RTP_FLOW_UNEXPECTED"
  | .rtpPtChanged => "RTP_PT_CHANGED"
  | .oneWayMedia => "ONE_WAY_MEDIA"
  | .turnAllocOk => "TURN_ALLOC_OK"
  | .turnAllocFailed => "TURN_ALLOC_FAILED"
  | .turnRefreshFailed => "TURN_REFRESH_FAILED"
  | .turnRelayMedia => "TURN_RELAY_MEDIA"
  | .turnChannelMedia => "TURN_CHANNEL_MEDIA"
  | .turnSendIndMedia => "TURN_SEND_IND_MEDIA"
  | .turnLegImbalance => "TURN_LEG_IMBALANCE"

/-- The codes `code_from_str` knows. -/
def diagCodes : List String :=
  ["CONTACT_UNREACHABLE", "CONTACT_PRIVATE_NAT", "CONTACT_MCAST", "RR_NOT_HONORED", "RR_DEPTH_MISMATCH",
    "SDP_HOLD", "RTP_PT_MISMATCH", "RTP_FLOW_UNEXPECTED", "RTP_PT_CHANGED", "ONE_WAY_MEDIA",
    "TURN_ALLOC_OK", "TURN_ALLOC_FAILED", "TURN_REFRESH_FAILED", "TURN_RELAY_MEDIA", "TURN_CHANNEL_MEDIA",
    "TURN_SEND_IND_MEDIA", "TURN_LEG_IMBALANCE"]

/-- `code_from_str`. -/
def codeFromStr (s : String) : String := if s ∈ diagCodes then s else "UNKNOWN_DIAG"

structure Diagnostic where
  tsUs : UInt64
  callId : String
  severity : Severity
  code : String
  message : String
  deriving DecidableEq

def diag (tsUs : UInt64) (callId : String) (severity : Severity) (code : DiagCode)
    (message : String) : Diagnostic :=
  { tsUs, callId, severity, code := code.text, message }

/-- `{:#x}`. -/
def hexPrefixed (n : Nat) : String := "0x" ++ hex n

namespace IpAddr

def isZero : IpAddr → Bool
  | .v4 ip => ip.isUnspecified
  | .v6 _ => false

def isMulticast : IpAddr → Bool
  | .v4 ip => ip.isMulticast || ip.isLinkLocal || ip.isBroadcast
  | .v6 _ => false

def isPrivate : IpAddr → Bool
  | .v4 ip => ip.isPrivate || ip.isLoopback || ip.isLinkLocal
  | .v6 ip => ip.isLoopback || ip.isUnicastLinkLocal

end IpAddr

/-- Contact reachability and NAT. -/
def checkContact (tsUs : UInt64) (callId : String) (msg : SipMsg) (peerPublic : Bool) :
    List Diagnostic :=
  match msg.contactAddr with
  | none => []
  | some addr =>
    let ip := addr.ip
    if ip.isZero || addr.port == 0 then
      [diag tsUs callId .critical .contactUnreachable
        ("Contact " ++ ip.display ++ ":" ++ toString addr.port.toNat ++ " is unreachable")]
    else
      (if ip.isMulticast then
        [diag tsUs callId .warn .contactMcast
          ("Contact " ++ ip.display ++ " is in a reserved/multicast range")]
      else []) ++
      (if ip.isPrivate && peerPublic then
        [diag tsUs callId .warn .contactPrivateNat
          ("Contact " ++ ip.display ++ " is private but peer appears public (NAT?)")]
      else [])

/-- In-dialog requests should carry Route when the INVITE had Record-Route. -/
def checkRecordRoute (tsUs : UInt64) (callId : String) (msg : SipMsg) (inviteHadRr : Bool) :
    List Diagnostic :=
  let inDialog := msg.toTag.isSome && msg.method.any fun m =>
    [Method.bye, .ack, .invite, .info, .notify, .refer, .update].contains m
  if msg.isRequest && inDialog && inviteHadRr && msg.routeCount == 0 then
    [diag tsUs callId .warn .rrNotHonored
      ("in-dialog " ++ (msg.method.map Method.name).getD "?" ++
        " has no Route header but INVITE carried Record-Route")]
  else []

def checkSdp (tsUs : UInt64) (callId : String) (sdp : SdpSession) : List Diagnostic :=
  if sdp.connectionIp.any IpAddr.isZero ||
      sdp.media.any fun m => m.connectionIp.any IpAddr.isZero then
    [diag tsUs callId .info .sdpHold "SDP advertises connection IP 0.0.0.0 (hold/misconfig)"]
  else []

def checkRtpPt (tsUs : UInt64) (callId : String) (ssrc : UInt32) (pt : UInt8)
    (negotiated : NegotiatedMedia) : Option Diagnostic :=
  if negotiated.pts.isEmpty || negotiated.pts.contains pt then none
  else some (diag tsUs callId .warn .rtpPtMismatch
    ("RTP ssrc=" ++ hexPrefixed ssrc.toNat ++ " PT=" ++ toString pt.toNat ++
      " not in negotiated codecs \x7b" ++ ",".intercalate negotiated.codecs ++ "\x7d"))

def checkRtpFlow (tsUs : UInt64) (callId : String) (flow : Flow5Tuple)
    (negotiated : NegotiatedMedia) : Option Diagnostic :=
  if negotiated.endpoints.isEmpty ||
      negotiated.endpoints.any fun e => e == flow.src || e == flow.dst then none
  else some (diag tsUs callId .warn .rtpFlowUnexpected
    ("RTP flow " ++ flow.src.display ++ "->" ++ flow.dst.display ++
      " does not match any SDP media endpoint"))

def checkPtChange (tsUs : UInt64) (callId : String) (ssrc : UInt32) (pt : UInt8)
    (prevPt : Option UInt8) : Option Diagnostic :=
  prevPt.bind fun p =>
    if p = pt then none
    else some (diag tsUs callId .info .rtpPtChanged
      ("RTP ssrc=" ++ hexPrefixed ssrc.toNat ++ " payload type changed " ++ toString p.toNat ++
        " -> " ++ toString pt.toNat))

end Sipmon.Source
