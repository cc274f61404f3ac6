import Sipmon.Source.Frame
import Sipmon.Source.Snapshot

/-!
# Live runs

What the pipeline does to its correlator while it records: the entry points that its frames
and passes reach, TURN signaling and publications, in any order. What waits in the
correlator is handed to the log file from time to time.
-/
namespace Sipmon.Guarantees.LiveRuns
open Source Lib Correlator
open Evlog (Event)

inductive Act where
  | entry (iter : Iteration) (op : Op)
  | turn (ts : UInt64) (flow : Flow5Tuple) (payload : Lib.ByteReader.Bytes)
  | reassembled (tcpReasm : TcpReassembler)
  | publish (iter : Iteration) (limit streamLimit : Nat)

/-- An act; `take_events` hands what waits to the log file. -/
def record (now : Correlator × List Event) : Act → Correlator × List Event
  | .entry iter op =>
    (now.1.step (iter, op), match op with
      | .takeEvents => now.2 ++ now.1.pendingEvents
      | _ => now.2)
  | .turn ts flow payload =>
    let (turn, diags, _) := now.1.turn.ingest ts flow payload
    ({ now.1 with turn }.addDiagnostics diags, now.2)
  | .reassembled tcpReasm => ({ now.1 with tcpReasm }, now.2)
  | .publish iter limit streamLimit =>
    ({ now.1 with reg := (now.1.reg.snapshotWith iter limit streamLimit).2 }, now.2)

/-- The events of the log file, and those that wait for it. -/
def recorded (now : Correlator × List Event) : List Event := now.2 ++ now.1.pendingEvents

/-! ## A short capture -/

/-- An INVITE that offers payload type 0. -/
def offerParser : SipParser := fun _ =>
  some { start := .request .invite, callId := some "c1", cseq := some "1 INVITE", topVia := none
         fromValue := none, toValue := none, contact := none
         contentType := some "application/sdp", compactType := none, routes := 0, recordRoutes := 0 }

def offerRaw : Lib.ByteReader.Bytes :=
  "INVITE sip:b SIP/2.0\r\n\r\nc=IN IP4 10.0.0.1\nm=audio 4000 RTP/AVP 0\n".toUTF8.toList

def offerInvite : Option SipMsg :=
  parseSip offerParser none 1000 ⟨.udp, ⟨.v4 ⟨10, 0, 0, 1⟩, 5060⟩, ⟨.v4 ⟨10, 0, 0, 2⟩, 5060⟩⟩ offerRaw

/-- The INVITE, and then a packet of payload type 8 from the address it offers. -/
def offerActs : List Act :=
  (offerInvite.toList.map fun msg => Act.entry .stored (.sip msg)) ++
    [.entry .stored (.rtp 2000 ⟨.udp, ⟨.v4 ⟨10, 0, 0, 1⟩, 4000⟩, ⟨.v4 ⟨10, 0, 0, 2⟩, 4000⟩⟩
      { version := 2, payloadType := 8, sequenceNumber := 1, timestamp := 160, ssrc := 7 } 160 .direct)]

end Sipmon.Guarantees.LiveRuns
