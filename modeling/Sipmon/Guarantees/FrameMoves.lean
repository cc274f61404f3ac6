import Sipmon.Guarantees.CallTable
import Sipmon.Source.Frame

/-!
# What a frame does, move by move

Whatever a captured frame holds, it acts on the correlator through its entry points, all
at the time of the frame, besides the trackers of TURN and of TCP. What each move keeps,
a frame keeps.
-/
namespace Sipmon.Guarantees.FrameMoves
open Source Lib Correlator
open Lib.ByteReader (Bytes)

inductive Move where
  | op (iter : Iteration) (entry : Op)
  /-- TURN signaling: what the tracker makes of it, and its diagnostics. -/
  | turn (tracker : TurnTracker) (diags : List Diagnostic)
  | reassembled (tcpReasm : TcpReassembler)

namespace Move

def run (c : Correlator) : Move → Correlator
  | .op iter entry => step c (iter, entry)
  | .turn tracker diags => { c with turn := tracker }.addDiagnostics diags
  | .reassembled tcpReasm => { c with tcpReasm }

/-- The moves of a frame of that time, whose messages are those the decoder reads. -/
inductive At (dec : Decoder) (ts : UInt64) : Move → Prop where
  | touch (iter : Iteration) : At dec ts (.op iter (.touchTime ts))
  | sip (iter : Iteration) {flow : Flow5Tuple} {raw : Bytes} {msg : SipMsg}
      (parsed : parseSip dec.parseMessage dec.rawTruncate ts flow raw = some msg) : At dec ts (.op iter (.sip msg))
  | rtp (iter : Iteration) (flow : Flow5Tuple) (header : RtpHeader) (len : Nat) (encap : Encap) :
      At dec ts (.op iter (.rtp ts flow header len encap))
  | rtcp (iter : Iteration) (flow : Flow5Tuple) (msg : RtcpMessage) : At dec ts (.op iter (.rtcp ts flow msg))
  | turn (tracker : TurnTracker) {diags : List Diagnostic} (times : ∀ d ∈ diags, d.tsUs = ts) :
      At dec ts (.turn tracker diags)
  | reassembled (tcpReasm : TcpReassembler) : At dec ts (.reassembled tcpReasm)

end Move

/-- `after` is reached from `c` by moves of that time. -/
def Moved (dec : Decoder) (ts : UInt64) (c after : Correlator) : Prop :=
  ∃ moves : List Move, (∀ m ∈ moves, m.At dec ts) ∧ after = moves.foldl Move.run c

variable {dec : Decoder} {ts : UInt64} {c after : Correlator}

theorem Moved.refl (dec : Decoder) (ts : UInt64) (c : Correlator) : Moved dec ts c c := ⟨[], by simp, rfl⟩

theorem Moved.trans {last : Correlator} (first : Moved dec ts c after) (second : Moved dec ts after last) :
    Moved dec ts c last := by
  obtain ⟨before, early, rfl⟩ := first
  obtain ⟨rest, late, rfl⟩ := second
  refine ⟨before ++ rest, fun m member => ?_, (List.foldl_append ..).symm⟩
  rcases List.mem_append.mp member with inside | inside
  · exact early m inside
  · exact late m inside

theorem Moved.one {m : Move} (at_ts : m.At dec ts) (c : Correlator) : Moved dec ts c (m.run c) :=
  ⟨[m], by simpa using at_ts, rfl⟩

theorem Moved.foldl {α : Type} {f : Correlator → α → Correlator} (each : ∀ c a, Moved dec ts c (f c a))
    (l : List α) (c : Correlator) : Moved dec ts c (l.foldl f c) := by
  induction l generalizing c with
  | nil => exact .refl dec ts c
  | cons a rest ih => exact (each c a).trans (ih (f c a))

/-- Rule for frames: an invariant of the moves holds after them. -/
theorem Moved.invariant {P : Correlator → Prop} (kept : ∀ c (m : Move), m.At dec ts → P c → P (m.run c))
    (moved : Moved dec ts c after) (holds : P c) : P after := by
  obtain ⟨moves, at_ts, rfl⟩ := moved
  exact (Run.along_of_forall c at_ts).invariant (P := P) kept holds

/-! ## Media -/

theorem moved_rtcpAll (flow : Flow5Tuple) (msgs : List RtcpMessage) (c : Correlator) :
    Moved dec ts c (c.ingestRtcpAll ts flow msgs) :=
  .foldl (fun c msg => .one (.rtcp .stored flow msg) c) msgs c

theorem moved_dispatchMedia (c : Correlator) (flow : Flow5Tuple) (bytes : Bytes) (encap : Encap) :
    Moved dec ts c (c.dispatchMedia ts flow bytes encap) := by
  unfold dispatchMedia
  split
  · split
    · exact .one (.rtp .stored flow _ _ encap) c
    · exact .refl dec ts c
  · exact moved_rtcpAll flow _ c
  · exact .refl dec ts c

/-- What the TURN tracker notes, it notes at the time of the datagram. -/
theorem times_of_turn (turn : TurnTracker) (flow : Flow5Tuple) (payload : Bytes) :
    ∀ d ∈ (turn.ingest ts flow payload).2.1, d.tsUs = ts := by
  have allocated : ∀ (turn : TurnTracker) client msg, ∀ d ∈ (turn.allocated ts client msg).2, d.tsUs = ts := by
    intro turn client msg
    unfold TurnTracker.allocated
    split
    · simp
    · simp [TurnTracker.note, diag]
  unfold TurnTracker.ingest
  dsimp only
  split
  · simp
  · split
    · split
      · simp
      · exact allocated _ _ _
      · simp [TurnTracker.note, diag]
      · simp
    · split
      · split
        · simp
        · simp [TurnTracker.note, diag]
        · simp
      · split
        · simp
        · split
          · simp
          · simp

theorem moved_handleTurn (c : Correlator) (flow : Flow5Tuple) (payload : Bytes) :
    Moved dec ts c (c.handleTurn ts flow payload) := by
  unfold handleTurn
  split
  · have noted : Moved dec ts c ({ c with turn := (c.turn.ingest ts flow payload).1 }.addDiagnostics
        (c.turn.ingest ts flow payload).2.1) := .one (.turn _ (times_of_turn c.turn flow payload)) c
    exact noted.trans (.foldl (fun c m => moved_dispatchMedia c flow m .sendIndication) _ _)
  · split
    · exact moved_dispatchMedia c flow _ .channelData
    · exact .refl dec ts c

/-! ## Signaling -/

theorem time_of_parseSip {parse : SipParser} {cut : Option Nat} {flow : Flow5Tuple} {raw : Bytes} {msg : SipMsg}
    (parsed : parseSip parse cut ts flow raw = some msg) : msg.tsUs = ts := by
  unfold parseSip at parsed
  split at parsed
  · cases parsed
  · obtain ⟨parts, -, rest⟩ := Option.bind_eq_some_iff.mp parsed
    obtain ⟨callId, -, built⟩ := Option.bind_eq_some_iff.mp rest
    obtain rfl := Option.some.inj built
    rfl

theorem moved_sip (iter : Iteration) (c : Correlator) (flow : Flow5Tuple) (raw : Bytes) :
    Moved dec ts c (match parseSip dec.parseMessage dec.rawTruncate ts flow raw with
      | some msg => c.ingestSip iter msg
      | none => c) := by
  split
  · rename_i msg parsed
    exact .one (.sip iter parsed) c
  · exact .refl dec ts c

theorem moved_handleUdp (dec : Decoder) (iter : Iteration) (c : Correlator) (flow : Flow5Tuple)
    (payload : Bytes) : Moved dec ts c (c.handleUdp dec iter ts flow payload) := by
  unfold handleUdp
  split
  · exact moved_dispatchMedia c flow payload .direct
  · split
    · exact moved_sip iter c flow payload
    · split
      · exact .refl dec ts c
      · exact moved_handleTurn c flow payload

theorem moved_ingestSegments (dec : Decoder) (flow : Flow5Tuple) (iters : Nat → Iteration) (c : Correlator)
    (msgs : List Bytes) : Moved dec ts c (ingestSegments dec ts flow iters c msgs) :=
  .foldl (fun c (m : Bytes × Nat) => moved_sip (iters m.2) c flow m.1) _ c

/-- A frame is moves of its time, the first of which sets the clock. -/
theorem moved_ingestFrame {iters : Nat → Iteration} {fuel : Nat}
    {decoded : Option (Flow5Tuple × L4)} (returned : c.ingestFrame dec iters fuel ts decoded = some after) :
    Moved dec ts { c with reg := c.reg.touchTime ts } after := by
  unfold ingestFrame at returned
  dsimp only at returned
  split at returned
  · obtain rfl := Option.some.inj returned
    exact .refl dec ts _
  · obtain rfl := Option.some.inj returned
    exact moved_handleUdp dec _ _ _ _
  · obtain ⟨fed, -, rfl⟩ := Option.map_eq_some_iff.mp returned
    exact (Moved.one (.reassembled fed.2) _).trans (moved_ingestSegments dec _ iters _ fed.1)

end Sipmon.Guarantees.FrameMoves
