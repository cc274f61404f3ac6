import Sipmon.Guarantees.StoredTextSteps

/-!
# A cap on the stored text of messages

With `raw_truncate` the decoder keeps a prefix of each message; the SDP body and
the Reason header of a BYE are read back from what is kept. Two runs over the
same capture, one with the cap and one without, correlate alike as long as every
cut leaves these two readings as they are.
-/
namespace Sipmon.Guarantees.Truncation
open Source Lib Lib.Run StoredText
open Source.Correlator (Op)
open Lib.ByteReader (Bytes)

/-- A captured packet, or another entry point of the correlator. -/
inductive Input where
  | packet (iters : Nat → Iteration) (fuel : Nat) (ts : UInt64) (decoded : Option (Flow5Tuple × L4))
  | op (iter : Iteration) (op : Op)

/-- The passes of an input visit the tables in the same order in both runs. -/
def Input.Natural : Input → Prop
  | .packet iters _ _ _ => ∀ i, (iters i).Natural
  | .op iter _ => iter.Natural

/-- One input; `none` once a TCP reassembly has not returned. -/
def feed (dec : Decoder) (state : Option Correlator) (input : Input) : Option Correlator :=
  state.bind fun c =>
    match input with
    | .packet iters fuel ts decoded => c.ingestFrame dec iters fuel ts decoded
    | .op iter op => some (c.step (iter, op))

def process (dec : Decoder) (c : Correlator) (inputs : List Input) : Option Correlator :=
  inputs.foldl (feed dec) (some c)

/-- The decoder with the cap `n`. -/
def cut (dec : Decoder) (n : Nat) : Decoder := { dec with rawTruncate := some n }

/-- The decoder without a cap. -/
def whole (dec : Decoder) : Decoder := { dec with rawTruncate := none }

/-! ## What is compared -/

structure CallOutline where
  state : CallState
  outcome : Outcome
  inviteTs : Option UInt64
  tryingTs : Option UInt64
  ringingTs : Option UInt64
  answerTs : Option UInt64
  byeTs : Option UInt64
  endTs : Option UInt64
  hangup : HangupCause
  negotiated : NegotiatedMedia
  deriving DecidableEq

def outline (call : Call) : CallOutline :=
  { state := call.state, outcome := call.outcome, inviteTs := call.inviteTs
    tryingTs := call.tryingTs, ringingTs := call.ringingTs, answerTs := call.answerTs
    byeTs := call.byeTs, endTs := call.endTs, hangup := call.hangup
    negotiated := call.negotiated }

structure Correlation where
  call : String → Option CallOutline
  endpointCall : FiniteMap SocketAddr String
  /-- The call an RTP packet of a flow and SSRC is counted on. -/
  assigned : Flow5Tuple → UInt32 → Option String

def correlation (c : Correlator) : Correlation :=
  { call := fun id => (c.reg.calls.lookup id).map outline
    endpointCall := c.reg.endpointCall
    assigned := fun flow ssrc =>
      match c.reg.streams.lookup { flow, ssrc } with
      | some stream => some stream.callId
      | none => Correlator.callOfFlow c.reg flow }

/-- Nothing that is compared is left out of the plain correlator. -/
theorem correlation_plain (c : Correlator) : correlation (plain c) = correlation c := by
  have call : ∀ id, ((plain c).reg.calls.lookup id).map outline = (c.reg.calls.lookup id).map outline := by
    intro id
    change ((FiniteMap.mapValues plainCall c.reg.calls).lookup id).map outline = _
    rw [FiniteMap.lookup_mapValues, Option.map_map]
    rfl
  simp only [correlation, call]
  rfl

/-! ## Decoding -/

/-- A SIP text survives the cut: where the correlator reads it back, it reads
the same. -/
def Survives (dec : Decoder) (n : Nat) (ts : UInt64) (flow : Flow5Tuple) (raw : Bytes) : Prop :=
  ∀ msg ∈ parseSip dec.parseMessage none ts flow raw,
    SameMedia msg (raw.take n) ∧ SameReason msg (raw.take n)

instance (msg : SipMsg) (raw : Bytes) : Decidable (SameMedia msg raw) := inferInstanceAs (Decidable (_ = _))
instance (msg : SipMsg) (raw : Bytes) : Decidable (SameReason msg raw) := inferInstanceAs (Decidable (_ → _))
instance (dec : Decoder) (n : Nat) (ts : UInt64) (flow : Flow5Tuple) (raw : Bytes) :
    Decidable (Survives dec n ts flow raw) := inferInstanceAs (Decidable (∀ msg ∈ _, _))

/-- The texts an input hands to the SIP decoder, complete TCP messages among them. -/
def texts (c : Correlator) : Input → List (UInt64 × Flow5Tuple × Bytes)
  | .packet _ fuel ts (some (flow, .tcp payload)) =>
    match TcpReassembler.feed fuel c.tcpReasm flow payload ts with
    | some (msgs, _) => msgs.map fun msg => (ts, flow, msg)
    | none => []
  | .packet _ _ ts (some (flow, .udp payload)) => [(ts, flow, payload)]
  | .packet _ _ _ none => []
  | .op _ _ => []

/-- Every text of an input survives the cut. -/
def Survive (dec : Decoder) (n : Nat) (state : Option Correlator) (input : Input) : Prop :=
  ∀ c ∈ state, ∀ text ∈ texts c input, Survives dec n text.1 text.2.1 text.2.2

instance (dec : Decoder) (n : Nat) (state : Option Correlator) (input : Input) :
    Decidable (Survive dec n state input) := inferInstanceAs (Decidable (∀ c ∈ state, _))

/-- The cap changes the stored text alone. -/
theorem parseSip_cut (parse : SipParser) (n : Nat) (ts : UInt64) (flow : Flow5Tuple) (raw : Bytes) :
    parseSip parse (some n) ts flow raw =
      (parseSip parse none ts flow raw).map fun msg => withRaw msg (raw.take n) := by
  unfold parseSip
  cases looksLikeSip raw with
  | false => rfl
  | true =>
    cases parse raw with
    | none => rfl
    | some msg =>
      cases present : msg.callId with
      | none =>
        simp only [Bool.not_true, Bool.false_eq_true, if_false, Option.bind_eq_bind, Option.bind_some,
          present, Option.bind_none, Option.map_none]
      | some id =>
        simp only [Bool.not_true, Bool.false_eq_true, if_false, Option.bind_eq_bind, Option.bind_some,
          present, Option.pure_def, Option.map_some, withRaw]

/-- A decoded message, where there is one. -/
def ingestParsed (iter : Iteration) (c : Correlator) (parsed : Option SipMsg) : Correlator :=
  match parsed with
  | some msg => c.ingestSip iter msg
  | none => c

theorem ingestParsed_alike {dec : Decoder} {n : Nat} {ts : UInt64} {flow : Flow5Tuple} {raw : Bytes}
    (survives : Survives dec n ts flow raw) (iter : Iteration) {a b : Correlator}
    (same : plain a = plain b) :
    plain (ingestParsed iter a (parseSip dec.parseMessage (some n) ts flow raw)) =
      plain (ingestParsed iter b (parseSip dec.parseMessage none ts flow raw)) := by
  rw [parseSip_cut]
  unfold Survives at survives
  generalize parseSip dec.parseMessage none ts flow raw = parsed at survives ⊢
  cases parsed with
  | none => exact same
  | some msg =>
    obtain ⟨media, reason⟩ := survives msg rfl
    exact ingestSip_alike iter same reason media

theorem dispatchMedia_respects (ts : UInt64) (flow : Flow5Tuple) (bytes : Bytes) (encap : Encap) :
    Respects plain fun c => c.dispatchMedia ts flow bytes encap := by
  intro a b same
  unfold Correlator.dispatchMedia
  dsimp only
  split
  · split
    · exact ingestRtp_respects _ _ _ _ _ _ _ same
    · exact same
  · exact Respects.foldl (ingestRtcp_respects ts flow) (parseAll bytes) _ _ same
  · exact same

theorem handleTurn_respects (ts : UInt64) (flow : Flow5Tuple) (payload : Bytes) :
    Respects plain fun c => c.handleTurn ts flow payload := by
  intro a b same
  have tracker := congrArg Correlator.turn same
  change a.turn = b.turn at tracker
  unfold Correlator.handleTurn
  dsimp only
  rw [tracker]
  split
  · have turned := congrArg (fun c : Correlator => { c with turn := (b.turn.ingest ts flow payload).1 }) same
    exact Respects.foldl (fun m => dispatchMedia_respects ts flow m .sendIndication) _ _ _
      (addDiagnostics_respects _ _ _ turned)
  · split
    · exact dispatchMedia_respects _ _ _ _ _ _ same
    · exact same

theorem handleUdp_alike {dec : Decoder} {n : Nat} {ts : UInt64} {flow : Flow5Tuple} {payload : Bytes}
    (survives : Survives dec n ts flow payload) (iter : Iteration) {a b : Correlator}
    (same : plain a = plain b) :
    plain (a.handleUdp (cut dec n) iter ts flow payload) =
      plain (b.handleUdp (whole dec) iter ts flow payload) := by
  unfold Correlator.handleUdp
  have capped : (cut dec n).noMedia = dec.noMedia := rfl
  have uncapped : (whole dec).noMedia = dec.noMedia := rfl
  rw [capped, uncapped]
  split
  · exact dispatchMedia_respects _ _ _ _ _ _ same
  · split
    · exact ingestParsed_alike survives iter same
    · split
      · exact same
      · exact handleTurn_respects _ _ _ _ _ same

theorem ingestSegments_alike {dec : Decoder} {n : Nat} {ts : UInt64} {flow : Flow5Tuple}
    {msgs : List Bytes} (survive : ∀ msg ∈ msgs, Survives dec n ts flow msg) (iters : Nat → Iteration)
    {a b : Correlator} (same : plain a = plain b) :
    plain (Correlator.ingestSegments (cut dec n) ts flow iters a msgs) =
      plain (Correlator.ingestSegments (whole dec) ts flow iters b msgs) := by
  unfold Correlator.ingestSegments
  have listed : ∀ numbered : List (Bytes × Nat), (∀ m ∈ numbered, Survives dec n ts flow m.1) →
      ∀ {a b : Correlator}, plain a = plain b →
      plain (numbered.foldl (fun c m => ingestParsed (iters m.2) c
          (parseSip dec.parseMessage (some n) ts flow m.1)) a) =
        plain (numbered.foldl (fun c m => ingestParsed (iters m.2) c
          (parseSip dec.parseMessage none ts flow m.1)) b) := by
    intro numbered
    induction numbered with
    | nil =>
      intro _ a b same
      exact same
    | cons m rest ih =>
      intro survive a b same
      exact ih (fun e member => survive e (List.mem_cons_of_mem m member))
        (ingestParsed_alike (survive m List.mem_cons_self) (iters m.2) same)
  exact listed msgs.zipIdx (fun m member => survive m.1 (List.fst_mem_of_mem_zipIdx member)) same

/-! ## Two runs -/

theorem feed_alike {dec : Decoder} {n : Nat} {input : Input} (natural : input.Natural)
    {s t : Option Correlator} (survive : Survive dec n t input) (same : s.map plain = t.map plain) :
    (feed (cut dec n) s input).map plain = (feed (whole dec) t input).map plain := by
  cases s with
  | none =>
    rw [Option.map_eq_none_iff.mp same.symm]
    rfl
  | some a =>
    obtain ⟨b, rfl, alike⟩ := Option.map_eq_some_iff.mp same.symm
    have texts := survive b rfl
    cases input with
    | op iter op => exact congrArg some (step_respects natural a b alike.symm)
    | packet iters fuel ts decoded =>
      have touched := reg_respects (f := fun reg => reg.touchTime ts)
        (fun _ _ same => congrArg (fun reg : Registry => reg.touchTime ts) same) a b alike.symm
      match decoded with
      | none => exact congrArg some touched
      | some (flow, .udp payload) =>
        exact congrArg some (handleUdp_alike (texts _ (List.mem_singleton.mpr rfl)) (iters 0) touched)
      | some (flow, .tcp payload) =>
        have buffers := congrArg Correlator.tcpReasm alike
        change b.tcpReasm = a.tcpReasm at buffers
        change (Option.map _ (TcpReassembler.feed fuel a.tcpReasm flow payload ts)).map plain =
          (Option.map _ (TcpReassembler.feed fuel b.tcpReasm flow payload ts)).map plain
        change ∀ text ∈ (match TcpReassembler.feed fuel b.tcpReasm flow payload ts with
          | some (msgs, _) => msgs.map fun msg => (ts, flow, msg)
          | none => []), _ at texts
        rw [buffers] at texts ⊢
        generalize TcpReassembler.feed fuel a.tcpReasm flow payload ts = drained at texts ⊢
        cases drained with
        | none => rfl
        | some out =>
          obtain ⟨msgs, tcpReasm⟩ := out
          have buffered := congrArg (fun c : Correlator => { c with tcpReasm }) touched
          refine congrArg some (ingestSegments_alike (fun msg member => ?_) iters buffered)
          exact texts (ts, flow, msg) (List.mem_map.mpr ⟨msg, member, rfl⟩)

/-- Where every SIP text of the capture survives the cut, the run that stores
cut texts correlates exactly as the run that stores whole ones: the calls, the
endpoints they advertise, and the call of every RTP packet. -/
theorem truncation_unseen (dec : Decoder) (n : Nat) (start : Iteration) (config : Config)
    (source : String) (inputs : List Input) (natural : ∀ input ∈ inputs, input.Natural)
    (survive : Along (feed (whole dec)) (Survive dec n) (some (.new start config source)) inputs) :
    (process (cut dec n) (.new start config source) inputs).map correlation =
      (process (whole dec) (.new start config source) inputs).map correlation := by
  have admitted := Along.and survive (along_of_forall (some (Correlator.new start config source)) natural)
  have matched : ∀ (t s : Option Correlator) (input : Input),
      Survive dec n t input ∧ input.Natural → s.map plain = t.map plain →
      (feed (cut dec n) s input).map plain = (feed (whole dec) t input).map plain :=
    fun _ _ _ admitted same => feed_alike admitted.2 admitted.1 same
  have alike : (process (cut dec n) (.new start config source) inputs).map plain =
      (process (whole dec) (.new start config source) inputs).map plain :=
    Along.simulation matched admitted rfl
  have shown : ∀ state : Option Correlator, state.map correlation = (state.map plain).map correlation := by
    intro state
    cases state with
    | none => rfl
    | some c => exact congrArg some (correlation_plain c).symm
  calc (process (cut dec n) (.new start config source) inputs).map correlation
      = ((process (cut dec n) (.new start config source) inputs).map plain).map correlation := shown _
    _ = ((process (whole dec) (.new start config source) inputs).map plain).map correlation := by rw [alike]
    _ = (process (whole dec) (.new start config source) inputs).map correlation := (shown _).symm

/-! ## An offer cut in its body -/

def caller : SocketAddr := ⟨.v4 ⟨10, 0, 0, 1⟩, 5060⟩
def callee : SocketAddr := ⟨.v4 ⟨10, 0, 0, 2⟩, 5060⟩
def toCallee : Flow5Tuple := { proto := .udp, src := caller, dst := callee }

def offerText : Bytes :=
  ("INVITE sip:b@10.0.0.2 SIP/2.0\r\nCall-ID: a\r\nContent-Type: application/sdp\r\n\r\n" ++
    "v=0\r\nc=IN IP4 10.0.0.1\r\nm=audio 4000 RTP/AVP 0\r\na=sendrecv\r\n").toUTF8.toList

/-- What a parser reads of the offer. -/
def offerParser : SipParser := fun raw =>
  if raw = offerText then
    some {
      start := .request .invite, callId := some "a", cseq := none, topVia := none, fromValue := none
      toValue := none, contact := none, contentType := some "application/sdp", compactType := none
      routes := 0, recordRoutes := 0 }
  else none

def offerDecoder : Decoder := { noMedia := false, rawTruncate := none, parseMessage := offerParser }

def offered : List Input := [.packet (fun _ => .stored) 0 1000 (some (toCallee, .udp offerText))]

/-- Cut in its body, the offer still counts as carrying SDP, and nothing is
learned from it: the media endpoint is missing. -/
theorem offer_cut_in_body :
    (process (cut offerDecoder 100) (.new .stored {} "") offered).map correlation ≠
      (process (whole offerDecoder) (.new .stored {} "") offered).map correlation := by
  intro same
  have endpoints := congrArg (Option.map fun seen => seen.endpointCall.lookup ⟨caller.ip, 4000⟩) same
  rw [Option.map_map, Option.map_map] at endpoints
  have missing : (process (cut offerDecoder 100) (.new .stored {} "") offered).map
      (fun c => c.reg.endpointCall.lookup ⟨caller.ip, 4000⟩) = some none := by decide +kernel
  have learned : (process (whole offerDecoder) (.new .stored {} "") offered).map
      (fun c => c.reg.endpointCall.lookup ⟨caller.ip, 4000⟩) = some (some "a") := by decide +kernel
  have lost : (some none : Option (Option String)) = some (some "a") :=
    missing.symm.trans (endpoints.trans learned)
  cases lost

/-- A cut behind the media line leaves the run as it is. -/
theorem offer_cut_behind_media :
    (process (cut offerDecoder 128) (.new .stored {} "") offered).map correlation =
      (process (whole offerDecoder) (.new .stored {} "") offered).map correlation :=
  truncation_unseen offerDecoder 128 .stored {} "" offered
    (fun input member => by
      rw [List.mem_singleton.mp member]
      exact fun _ _ _ _ _ => rfl)
    (by decide +kernel)

end Sipmon.Guarantees.Truncation
