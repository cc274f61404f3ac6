import Sipmon.Guarantees.TurnDemux
import Sipmon.Guarantees.TurnMarks

/-!
# TURN carriage of media

A media packet handled directly and the same packet unwrapped from TURN leave
the same core. The unwrapped packet may report one more diagnostic, the TURN
note of a new stream.
-/
namespace Sipmon.Guarantees.TurnTransparency
open Source Lib TurnMarks TurnDemux
open Lib.ByteReader (Bytes)

/-- The note that a stream's media is carried in TURN. -/
def CarriageNote (d : Diagnostic) : Prop :=
  d.severity = .info ∧
    (d.code = DiagCode.turnChannelMedia.text ∨ d.code = DiagCode.turnSendIndMedia.text)

instance (d : Diagnostic) : Decidable (CarriageNote d) := inferInstanceAs (Decidable (_ ∧ _))

/-- The wrapped packet left the same core; its logs are those of the direct one
with at most one TURN note reported on the way. -/
structure Transparent (direct wrapped : Correlator) : Prop where
  core : core wrapped = core direct
  logs : ∃ (before : Correlator) (notes after : List Diagnostic),
    (∀ d ∈ notes, CarriageNote d) ∧ notes.length ≤ 1 ∧
    logs direct = logs (before.addDiagnostics after) ∧
    logs wrapped = logs (before.addDiagnostics (notes ++ after))

theorem Transparent.of_same {direct wrapped : Correlator}
    (sameCore : TurnMarks.core wrapped = TurnMarks.core direct)
    (sameLogs : TurnMarks.logs wrapped = TurnMarks.logs direct) : Transparent direct wrapped := by
  refine ⟨sameCore, direct, [], [], ?_, Nat.zero_le 1, rfl, sameLogs⟩
  exact fun d member => absurd member List.not_mem_nil

/-- The TURN packet counter aside, the same correlator. -/
def recount (n : Nat) (c : Correlator) : Correlator := { c with turn := { c.turn with pktsTurn := n } }

theorem core_recount (n : Nat) (c : Correlator) : core (recount n c) = core c := rfl
theorem logs_recount (n : Nat) (c : Correlator) : logs (recount n c) = logs c := rfl

theorem addDiagnostics_append (c : Correlator) (first second : List Diagnostic) :
    c.addDiagnostics (first ++ second) = (c.addDiagnostics first).addDiagnostics second :=
  List.foldl_append

theorem core_notes {c : Correlator} {notes : List Diagnostic} (info : ∀ d ∈ notes, CarriageNote d) :
    core (c.addDiagnostics notes) = core c := by
  induction notes generalizing c with
  | nil => rfl
  | cons d more ih =>
    have first := core_info c (info d List.mem_cons_self).1
    exact (ih fun e member => info e (List.mem_cons_of_mem d member)).trans first

/-! ## RTP -/

/-- The diagnostics of a first packet against the negotiated media. -/
def negotiationDiagnostics (callId : String) (neg : Option NegotiatedMedia) (ts : UInt64)
    (flow : Flow5Tuple) (header : RtpHeader) : List Diagnostic :=
  Correlator.openDiagnostics callId neg none .direct false ts flow header

/-- The note of a wrapped stream. -/
def carriageNotes (callId : String) (encap : Encap) (note : Bool) (ts : UInt64) (flow : Flow5Tuple)
    (header : RtpHeader) : List Diagnostic :=
  Correlator.openDiagnostics callId none none encap note ts flow header

/-- The note of a relayed stream. -/
def legNotes (callId : String) (leg : Option Leg) (note : Bool) (ts : UInt64) (flow : Flow5Tuple)
    (header : RtpHeader) : List Diagnostic :=
  Correlator.openDiagnostics callId none leg .direct note ts flow header

theorem openDiagnostics_eq (callId : String) (neg : Option NegotiatedMedia) (leg : Option Leg)
    (encap : Encap) (note : Bool) (ts : UInt64) (flow : Flow5Tuple) (header : RtpHeader) :
    Correlator.openDiagnostics callId neg leg encap note ts flow header =
      negotiationDiagnostics callId neg ts flow header ++
        (carriageNotes callId encap note ts flow header ++ legNotes callId leg note ts flow header) := by
  unfold negotiationDiagnostics carriageNotes legNotes Correlator.openDiagnostics
  cases note <;> simp

theorem carriageNotes_direct (callId : String) (note : Bool) (ts : UInt64) (flow : Flow5Tuple)
    (header : RtpHeader) : carriageNotes callId .direct note ts flow header = [] := by
  cases note <;> rfl

theorem carriageNotes_spec (callId : String) (encap : Encap) (note : Bool) (ts : UInt64)
    (flow : Flow5Tuple) (header : RtpHeader) :
    (∀ d ∈ carriageNotes callId encap note ts flow header, CarriageNote d) ∧
      (carriageNotes callId encap note ts flow header).length ≤ 1 := by
  unfold carriageNotes Correlator.openDiagnostics
  cases note <;> cases encap <;> simp [CarriageNote, diag]

/-- The note of the relay leg is due however the media is carried. -/
theorem legNotes_due (callId : String) (leg : Option Leg) (encap : Encap) (s : RtpStream)
    (ts : UInt64) (flow : Flow5Tuple) (header : RtpHeader) :
    legNotes callId leg (Correlator.turnNoteDue s encap leg) ts flow header =
      legNotes callId leg (Correlator.turnNoteDue s .direct leg) ts flow header := by
  cases leg with
  | none =>
    unfold legNotes Correlator.openDiagnostics
    cases Correlator.turnNoteDue s encap none <;> cases Correlator.turnNoteDue s .direct none <;> rfl
  | some l =>
    have due : Correlator.turnNoteDue s encap (some l) = Correlator.turnNoteDue s .direct (some l) := by
      unfold Correlator.turnNoteDue
      simp
    rw [due]

/-- What `openRtp` does before it reports: the stream, its index, its call. -/
def opened (c : Correlator) (ts : UInt64) (flow : Flow5Tuple) (header : RtpHeader) (len : Nat)
    (encap : Encap) (callId : String) : Correlator :=
  let key : StreamKey := { flow, ssrc := header.ssrc }
  let reverseExists := (c.reg.callStreamKeys callId).any fun k => k.flow == flow.reverse
  let leg := c.turn.legOf flow
  let neg := (c.reg.calls.lookup callId).map Call.negotiated
  let stream := (c.reg.streams.lookup key).getD (.new flow header.ssrc callId)
  let opened := Correlator.openStream neg leg encap reverseExists ts header len stream
  let reg := { c.reg with streams := c.reg.streams.insert key opened }.noteStream callId key
  { c with reg := reg.updateCall callId (Correlator.noteMedia flow (leg.isSome || encap != .direct)) }

/-- What it does after. -/
def credited (c : Correlator) (ts : UInt64) (flow : Flow5Tuple) (header : RtpHeader)
    (callId : String) (reverseExists : Bool) : Correlator :=
  let reg := if reverseExists then
      c.reg.updateStream { flow := flow.reverse, ssrc := header.ssrc } fun s =>
        { s with reverseSeen := true }
    else c.reg
  { c with reg := reg.updateCall callId (Correlator.countRtp ts) }

theorem core_opened (n : Nat) (c : Correlator) (ts : UInt64) (flow : Flow5Tuple) (header : RtpHeader)
    (len : Nat) (encap : Encap) (callId : String) :
    core (opened (recount n c) ts flow header len encap callId) =
      core (opened c ts flow header len .direct callId) := by
  refine Core.ext (funext fun k => ?_) (funext fun id => ?_) rfl
  · simp only [core, opened, recount, Registry.updateCall, Registry.noteStream,
      FiniteMap.lookup_insert_iff]
    split
    · exact congrArg some (unmarked_openStream _ _ _ _ _ _ _ _ rfl)
    · rfl
  · simp only [core, opened, recount, Registry.updateCall, Registry.noteStream,
      FiniteMap.lookup_modify]
    split
    · exact map_alike (fun x y alike =>
        congrArg (Correlator.noteMedia flow false) alike) rfl
    · rfl

theorem logs_opened (n : Nat) (c : Correlator) (ts : UInt64) (flow : Flow5Tuple) (header : RtpHeader)
    (len : Nat) (encap : Encap) (callId : String) :
    logs (opened (recount n c) ts flow header len encap callId) =
      logs (opened c ts flow header len .direct callId) := rfl

theorem core_credited {a b : Correlator} (same : core a = core b) (ts : UInt64) (flow : Flow5Tuple)
    (header : RtpHeader) (callId : String) (reverseExists : Bool) :
    core (credited a ts flow header callId reverseExists) =
      core (credited b ts flow header callId reverseExists) := by
  have counted : ∀ x y : Call, unmarkedCall x = unmarkedCall y →
      unmarkedCall (Correlator.countRtp ts x) = unmarkedCall (Correlator.countRtp ts y) :=
    fun x y alike => congrArg (Correlator.countRtp ts) alike
  have seen : ∀ x y : RtpStream, unmarkedStream x = unmarkedStream y →
      unmarkedStream { x with reverseSeen := true } = unmarkedStream { y with reverseSeen := true } :=
    fun x y alike => congrArg (fun s : RtpStream => { s with reverseSeen := true }) alike
  unfold credited
  dsimp only
  cases reverseExists with
  | true =>
    have reversed := core_updateStream same { flow := flow.reverse, ssrc := header.ssrc } seen
    exact core_updateCall reversed callId counted
  | false => exact core_updateCall same callId counted

theorem logs_credited (c : Correlator) (ts : UInt64) (flow : Flow5Tuple) (header : RtpHeader)
    (callId : String) (reverseExists : Bool) :
    logs (credited c ts flow header callId reverseExists) = logs c := by
  unfold credited
  cases reverseExists <;> rfl

theorem openRtp_stages (c : Correlator) (ts : UInt64) (flow : Flow5Tuple) (header : RtpHeader)
    (len : Nat) (encap : Encap) (callId : String) :
    c.openRtp ts flow header len encap callId =
      credited ((opened c ts flow header len encap callId).addDiagnostics
        (Correlator.openDiagnostics callId ((c.reg.calls.lookup callId).map Call.negotiated)
          (c.turn.legOf flow) encap
          (Correlator.turnNoteDue ((c.reg.streams.lookup { flow, ssrc := header.ssrc }).getD
            (.new flow header.ssrc callId)) encap (c.turn.legOf flow)) ts flow header))
        ts flow header callId
        ((c.reg.callStreamKeys callId).any fun k => k.flow == flow.reverse) := rfl

theorem transparent_openRtp (n : Nat) (c : Correlator) (ts : UInt64) (flow : Flow5Tuple)
    (header : RtpHeader) (len : Nat) (encap : Encap) (callId : String) :
    Transparent (c.openRtp ts flow header len .direct callId)
      ((recount n c).openRtp ts flow header len encap callId) := by
  have registry : (recount n c).reg = c.reg := rfl
  have relays : (recount n c).turn.legOf flow = c.turn.legOf flow := rfl
  rw [openRtp_stages, openRtp_stages, openDiagnostics_eq, openDiagnostics_eq, carriageNotes_direct,
    registry, relays, legNotes_due callId _ encap, List.nil_append]
  generalize (c.reg.streams.lookup { flow, ssrc := header.ssrc }).getD _ = s
  generalize Correlator.turnNoteDue s encap (c.turn.legOf flow) = due
  obtain ⟨info, one⟩ := carriageNotes_spec callId encap due ts flow header
  generalize carriageNotes callId encap due ts flow header = notes at info one ⊢
  generalize legNotes callId (c.turn.legOf flow) _ ts flow header = leg
  generalize negotiationDiagnostics callId _ ts flow header = neg
  have sameCore := core_opened n c ts flow header len encap callId
  have sameLogs := logs_opened n c ts flow header len encap callId
  generalize opened (recount n c) ts flow header len encap callId = wrapped at sameCore sameLogs ⊢
  generalize opened c ts flow header len .direct callId = direct at sameCore sameLogs ⊢
  refine ⟨core_credited ?_ ts flow header callId _, direct.addDiagnostics neg, notes, leg, info, one,
    ?_, ?_⟩
  · rw [addDiagnostics_append, addDiagnostics_append, addDiagnostics_append direct]
    refine core_addDiagnostics ?_ leg
    exact (core_notes info).trans (core_addDiagnostics sameCore neg)
  · rw [logs_credited, addDiagnostics_append]
  · rw [logs_credited, addDiagnostics_append]
    exact logs_addDiagnostics (logs_addDiagnostics sameLogs neg) (notes ++ leg)

theorem transparent_ingestRtp (n : Nat) (c : Correlator) (ts : UInt64) (flow : Flow5Tuple)
    (header : RtpHeader) (len : Nat) (encap : Encap) :
    Transparent (c.ingestRtp ts flow header len .direct)
      ((recount n c).ingestRtp ts flow header len encap) := by
  unfold Correlator.ingestRtp
  dsimp only
  have registry : (recount n c).reg = c.reg := rfl
  rw [registry]
  split
  · next stream _ =>
    unfold Correlator.observeExistingRtp
    dsimp only
    refine .of_same (core_addDiagnostics ?_ _) (logs_addDiagnostics ?_ _)
    · rfl
    · rfl
  · split
    · next callId _ => exact transparent_openRtp n c ts flow header len encap callId
    · exact .of_same (core_recount n c) (logs_recount n c)

/-! ## RTCP -/

theorem attachSample_recount (n : Nat) (ts : UInt64) (c : Correlator)
    (sample : Correlator.RtcpSample) :
    Correlator.attachSample ts (recount n c) sample = recount n (Correlator.attachSample ts c sample) := by
  unfold Correlator.attachSample
  dsimp only [recount]
  split <;> rfl

theorem ingestRtcp_recount (n : Nat) (c : Correlator) (ts : UInt64) (flow : Flow5Tuple)
    (msg : RtcpMessage) : (recount n c).ingestRtcp ts flow msg = recount n (c.ingestRtcp ts flow msg) := by
  have samples : ∀ (l : List Correlator.RtcpSample) (c : Correlator),
      l.foldl (Correlator.attachSample ts) (recount n c) =
        recount n (l.foldl (Correlator.attachSample ts) c) := by
    intro l
    induction l with
    | nil => exact fun _ => rfl
    | cons sample rest ih =>
      intro c
      rw [List.foldl_cons, List.foldl_cons, attachSample_recount, ih]
  have registry : (recount n c).reg = c.reg := rfl
  unfold Correlator.ingestRtcp
  dsimp only
  rw [registry]
  split
  · exact samples _ { c with reg := _ }
  · exact samples _ c

theorem ingestRtcpAll_recount (n : Nat) (ts : UInt64) (flow : Flow5Tuple) (msgs : List RtcpMessage)
    (c : Correlator) : (recount n c).ingestRtcpAll ts flow msgs = recount n (c.ingestRtcpAll ts flow msgs) := by
  unfold Correlator.ingestRtcpAll
  induction msgs generalizing c with
  | nil => rfl
  | cons msg rest ih => rw [List.foldl_cons, List.foldl_cons, ingestRtcp_recount, ih]

theorem transparent_dispatchMedia (n : Nat) (c : Correlator) (ts : UInt64) (flow : Flow5Tuple)
    (p : Bytes) (encap : Encap) :
    Transparent (c.dispatchMedia ts flow p .direct)
      ((recount n c).dispatchMedia ts flow p encap) := by
  unfold Correlator.dispatchMedia
  cases classify p with
  | rtp =>
    cases parseRtpHeader p with
    | some h => exact transparent_ingestRtp n c ts flow h p.length encap
    | none => exact .of_same (core_recount n c) (logs_recount n c)
  | rtcp =>
    dsimp only
    rw [ingestRtcpAll_recount]
    exact .of_same (core_recount n _) (logs_recount n _)
  | other => exact .of_same (core_recount n c) (logs_recount n c)

/-- Media handled directly, unwrapped from a ChannelData frame, and unwrapped
from a Send or Data indication leaves the same correlator up to the TURN marks,
the TURN packet counter, and at most one TURN note in the logs. -/
theorem encapsulation_transparent {dec : Decoder} (media : dec.noMedia = false)
    (iter : Iteration) (c : Correlator) (ts : UInt64) (flow : Flow5Tuple) {p : Bytes}
    (carried : classify p ≠ .other) (frame : ChannelFrame) (short : p.length < 2 ^ 16)
    (noSip : looksLikeSip (frame.bytes p) = false) (ind : Indication p) :
    Transparent (c.handleUdp dec iter ts flow p) (c.handleUdp dec iter ts flow (frame.bytes p)) ∧
      Transparent (c.handleUdp dec iter ts flow p) (c.handleUdp dec iter ts flow ind.bytes) := by
  have direct : c.handleUdp dec iter ts flow p = c.dispatchMedia ts flow p .direct := by
    unfold Correlator.handleUdp
    rw [media]
    exact if_pos (by simp [carried])
  rw [direct, handleUdp_channel media iter c ts flow frame carried short noSip,
    handleUdp_indication media iter c ts flow ind]
  exact ⟨transparent_dispatchMedia c.turn.pktsTurn c ts flow p .channelData,
    transparent_dispatchMedia (c.turn.pktsTurn + 1) c ts flow p .sendIndication⟩

/-! ## A full ring -/

/-- An INVITE with an unreachable Contact that offers media at `10.0.0.1:4000`. -/
def unreachableOffer : SipMsg :=
  { tsUs := 1, isRequest := true, method := some .invite, status := none, toTag := none
    cseqMethod := some "INVITE"
    flow := { proto := .udp, src := ⟨.v4 ⟨10, 0, 0, 9⟩, 5060⟩, dst := ⟨.v4 ⟨10, 0, 0, 8⟩, 5060⟩ }
    callId := "a", cseq := some 1, branch := none, fromTag := none, fromUri := none, toUri := none
    raw := "\r\n\r\nc=IN IP4 10.0.0.1\nm=audio 4000 RTP/AVP 0\n".toUTF8.toList
    contactAddr := some ⟨.v4 ⟨0, 0, 0, 0⟩, 5060⟩, routeCount := 0, recordRouteCount := 0
    hasSdp := true }

/-- The call is set up, and its one diagnostic fills the ring. -/
def offered : Correlator :=
  (Correlator.new .stored { maxDiagnostics := 1, diagLevel := "info" } "eth0").ingestSip .stored
    unreachableOffer

def decoder : Decoder := { noMedia := false, rawTruncate := none, parseMessage := fun _ => none }

def packet : Bytes := [0x80, 0, 0, 1, 0, 0, 0, 160, 0, 0, 0, 7]

def packetFlow : Flow5Tuple :=
  { proto := .udp, src := ⟨.v4 ⟨10, 0, 0, 1⟩, 4000⟩, dst := ⟨.v4 ⟨10, 0, 0, 7⟩, 4000⟩ }

def channelFrame : ChannelFrame := { high := 0x40, low := 1, padding := [0], channel := by decide }

def dataIndication : Indication packet where
  fromServer := true
  txnId := List.replicate 12 7
  before := [{ attr := { typ := Stun.attrXorPeerAddress, value := List.replicate 8 1 }, pad := []
               short := by decide, padded := by decide }]
  carried := { attr := { typ := Stun.attrData, value := packet }, pad := []
               short := by decide, padded := by decide }
  after := []
  trailing := []
  txnLength := by decide
  plain := by decide
  carries := rfl
  short := by decide

theorem encapsulation_transparent_packet :
    Transparent (offered.handleUdp decoder .stored 2 packetFlow packet)
        (offered.handleUdp decoder .stored 2 packetFlow (channelFrame.bytes packet)) ∧
      Transparent (offered.handleUdp decoder .stored 2 packetFlow packet)
        (offered.handleUdp decoder .stored 2 packetFlow dataIndication.bytes) :=
  encapsulation_transparent rfl .stored offered 2 packetFlow (by decide +kernel) channelFrame
    (by decide) (by decide +kernel) dataIndication

/-- The note of the wrapped packet displaces the diagnostic that the direct packet keeps. -/
theorem note_displaces_diagnostic :
    decoder.noMedia = false ∧ classify packet ≠ .other ∧
      looksLikeSip (channelFrame.bytes packet) = false ∧
      (offered.handleUdp decoder .stored 2 packetFlow (channelFrame.bytes packet)).reg.diagnostics.filter
          (fun d => decide (¬ CarriageNote d)) ≠
        (offered.handleUdp decoder .stored 2 packetFlow packet).reg.diagnostics.filter
          (fun d => decide (¬ CarriageNote d)) := by
  decide +kernel

end Sipmon.Guarantees.TurnTransparency
