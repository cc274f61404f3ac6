import Sipmon.Source.Ingest
import Sipmon.Source.SipDecode

/-!
# From recorded messages back to messages (`src/capture/replay.rs`)
-/
namespace Sipmon.Source
open Evlog (SipMsgEvt)
open Text (toAsciiUppercase)

/-- `parse_method`. -/
def parseMethod (s : String) : Method :=
  match String.ofList (toAsciiUppercase s.toList) with
  | "INVITE" => .invite
  | "ACK" => .ack
  | "BYE" => .bye
  | "CANCEL" => .cancel
  | "REGISTER" => .register
  | "OPTIONS" => .options
  | "PRACK" => .prack
  | "UPDATE" => .update
  | "SUBSCRIBE" => .subscribe
  | "NOTIFY" => .notify
  | "PUBLISH" => .publish
  | "INFO" => .info
  | "REFER" => .refer
  | "MESSAGE" => .message
  | _ => .other

/-- The message of the recorded summary fields. -/
def summaryMsg (evt : SipMsgEvt) : SipMsg :=
  { tsUs := evt.tsUs, flow := evt.flow, isRequest := evt.isRequest
    method := evt.method.map parseMethod, status := evt.status, callId := evt.callId
    cseq := evt.cseq, cseqMethod := none, branch := evt.branch, fromTag := evt.fromTag
    toTag := evt.toTag, fromUri := none, toUri := none, raw := evt.raw, contactAddr := none
    routeCount := 0, recordRouteCount := 0, hasSdp := false }

/-- `evt_to_sipmsg`: the stored raw parsed again, else the summary. -/
def evtToSipmsg (parseMessage : SipParser) (evt : SipMsgEvt) : SipMsg :=
  (parseSip parseMessage none evt.tsUs evt.flow evt.raw).getD (summaryMsg evt)

end Sipmon.Source
