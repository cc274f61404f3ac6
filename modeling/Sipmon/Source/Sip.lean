import Sipmon.Lib.ByteReader
import Sipmon.Source.Packet

/-!
# SIP messages and calls (`src/model/sip.rs`, `src/model/media.rs`)

`Call.legs` is left out: nothing writes or reads it. `invite_key` and
`invite_src` hold the text of an address that is only displayed or parsed back,
so the model keeps the address.
-/
namespace Sipmon.Source
open Lib.ByteReader (Bytes)

inductive Method where
  | invite | ack | bye | cancel | register | options | prack | update | subscribe | notify
  | publish | info | refer | message | other
  deriving DecidableEq, Repr

def Method.name : Method → String
  | .invite => "INVITE"
  | .ack => "ACK"
  | .bye => "BYE"
  | .cancel => "CANCEL"
  | .register => "REGISTER"
  | .options => "OPTIONS"
  | .prack => "PRACK"
  | .update => "UPDATE"
  | .subscribe => "SUBSCRIBE"
  | .notify => "NOTIFY"
  | .publish => "PUBLISH"
  | .info => "INFO"
  | .refer => "REFER"
  | .message => "MESSAGE"
  | .other => "OTHER"

inductive CallState where
  | dialing | ringing | active | completed | failed | canceled
  deriving DecidableEq, Repr

structure HangupCause where
  code : Option UInt32 := none
  reason : Option String := none
  deriving DecidableEq, Repr

inductive HangupBy where
  | caller | callee | cancel | reject
  deriving DecidableEq, Repr

inductive Outcome where
  | inProgress | answered | rejected | noAnswer | canceled | failed
  deriving DecidableEq, Repr

structure SipMsg where
  tsUs : UInt64
  flow : Flow5Tuple
  isRequest : Bool
  method : Option Method
  status : Option UInt16
  callId : String
  cseq : Option UInt32
  cseqMethod : Option String
  branch : Option String
  fromTag : Option String
  toTag : Option String
  fromUri : Option String
  toUri : Option String
  raw : Bytes
  contactAddr : Option SocketAddr
  routeCount : Nat
  recordRouteCount : Nat
  hasSdp : Bool
  deriving DecidableEq

structure NegotiatedMedia where
  endpoints : List SocketAddr := []
  pts : List UInt8 := []
  codecs : List String := []
  clockRates : List UInt32 := []
  deriving DecidableEq

structure Call where
  callId : String
  fromUri : Option String := none
  toUri : Option String := none
  fromUser : Option String := none
  toUser : Option String := none
  state : CallState := .dialing
  outcome : Outcome := .inProgress
  hangup : HangupCause := {}
  messages : List SipMsg := []
  inviteTs : Option UInt64 := none
  tryingTs : Option UInt64 := none
  ringingTs : Option UInt64 := none
  answerTs : Option UInt64 := none
  byeTs : Option UInt64 := none
  endTs : Option UInt64 := none
  pddMs : Option UInt32 := none
  setupMs : Option UInt32 := none
  ringMs : Option UInt32 := none
  ringCode : Option UInt16 := none
  earlyMedia : Bool := false
  hangupBy : Option HangupBy := none
  pktsSip : Nat := 0
  pktsRtp : Nat := 0
  pktsRtcp : Nat := 0
  bytes : Nat := 0
  negotiated : NegotiatedMedia := {}
  warnCount : Nat := 0
  criticalCount : Nat := 0
  viaTurn : Bool := false
  inviteKey : Option IpAddr := none
  inviteSrc : Option SocketAddr := none
  ips : List IpAddr := []
  activeIps : List IpAddr := []
  lastTsUs : UInt64 := 0
  deriving DecidableEq

/-- `Call::new`. -/
def Call.new (callId : String) : Call := { callId }

/-- `Call::duration_ms`. -/
def Call.durationMs (call : Call) : Option UInt64 :=
  match call.inviteTs, call.endTs <|> call.byeTs with
  | some a, some b => if a ≤ b then some ((b - a) / 1000) else none
  | _, _ => none

end Sipmon.Source
