import Sipmon.Guarantees.CallRecords
import Sipmon.Guarantees.CallIsolation
import Sipmon.Guarantees.MediaMerge

/-!
# What a call holds on to

The messages of a call are capped, and its payload types are distinct, whatever it
receives. Its addresses, its endpoints and its codec names are distinct as long as what
its messages bring is distinct and new: the initial INVITE and the SDP merge append
without looking.
-/
namespace Sipmon.Guarantees.CallMemory
open Source Lib Lib.FirstSeen Correlator CallSignals CallRecords MediaMerge
open Carried (Counting)

/-- No more messages than the cap, and nothing twice. -/
structure Compact (call : Call) : Prop where
  messages : call.messages.length ≤ maxMsgsPerCall
  ips : call.ips.Nodup
  endpoints : call.negotiated.endpoints.Nodup
  pts : call.negotiated.pts.Nodup
  codecs : call.negotiated.codecs.Nodup

/-- What a message appends to its call unseen is distinct and new: the addresses of an
initial INVITE, the endpoints of an SDP, the codec names of the first SDP. -/
structure BringsNew (call : Call) (msg : SipMsg) : Prop where
  ips : msg.isInitialInvite = true → (call.ips ++ [msg.flow.src.ip, msg.flow.dst.ip]).Nodup
  endpoints : ∀ sess, sdpOf msg = some sess →
    if call.negotiated.pts = [] then sess.endpoints.Nodup
    else (call.negotiated.endpoints ++ sess.endpoints).Nodup
  codecs : ∀ sess, sdpOf msg = some sess → call.negotiated.pts = [] → (names sess).Nodup

/-! ## One call -/

theorem compact_new (id : String) : Compact (.new id) where
  messages := Nat.zero_le _
  ips := List.nodup_nil
  endpoints := List.nodup_nil
  pts := List.nodup_nil
  codecs := List.nodup_nil

/-- Other addresses for the same messages and media. -/
theorem Compact.with_ips {a b : Call} (compact : Compact a) (messages : b.messages = a.messages)
    (negotiated : b.negotiated = a.negotiated) (distinct : b.ips.Nodup) : Compact b where
  messages := messages ▸ compact.messages
  ips := distinct
  endpoints := negotiated ▸ compact.endpoints
  pts := negotiated ▸ compact.pts
  codecs := negotiated ▸ compact.codecs

theorem compact_counting : Closed fun _ => Compact := by
  intro update counting id call compact
  cases counting with
  | diagnostic severity => cases severity <;> exact compact.with_ips rfl rfl compact.ips
  | rtp | rtcp => exact compact.with_ips rfl rfl compact.ips
  | media flow relayed =>
    have noted : (note (note call.ips flow.src.ip) flow.dst.ip).Nodup :=
      nodup_note (nodup_note compact.ips _) _
    exact compact.with_ips rfl rfl noted

theorem ips_receive (msg : SipMsg) (learned : Option NegotiatedMedia) (call : Call) :
    (receive msg learned call).ips =
      if msg.isInitialInvite then call.ips ++ [msg.flow.src.ip, msg.flow.dst.ip] else call.ips := by
  have written : (call.applySip msg).ips = _ := congrArg Roster.ips (roster_applySip call msg)
  unfold receive
  cases learned <;> refine written.trans ?_ <;> split <;> rfl

theorem messages_receive (msg : SipMsg) (learned : Option NegotiatedMedia) (call : Call) :
    (receive msg learned call).messages.length ≤ maxMsgsPerCall := by
  have kept : (receive msg learned call).messages =
      Registry.keepLast maxMsgsPerCall ((call.applySip msg).messages ++ [msg]) := by
    unfold receive
    cases learned <;> dsimp only
  rw [kept]
  generalize maxMsgsPerCall = cap
  rw [Registry.keepLast, List.length_drop]
  omega

theorem nodup_pts_learn {neg : NegotiatedMedia} (distinct : neg.pts.Nodup) (sess : SdpSession) :
    (learn neg sess).pts.Nodup := by
  rw [learn_pts]
  refine distinct.append (nodup_newTypes neg sess) fun pt known added => ?_
  simpa [known] using (List.mem_filter.mp added).2

theorem nodup_codecs_learn {neg : NegotiatedMedia} (distinct : neg.codecs.Nodup) (sess : SdpSession) :
    (learn neg sess).codecs.Nodup ↔ (neg.pts = [] → (names sess).Nodup) := by
  by_cases empty : neg.pts = []
  · rw [learn_first neg sess empty]
    exact ⟨fun kept _ => kept, fun kept => kept empty⟩
  · rw [learn_codecs_later neg sess empty]
    exact ⟨fun _ first => absurd first empty, fun _ => nodup_foldl_note _ distinct⟩

/-- A message leaves its call compact exactly when what it brings is new. -/
theorem compact_receive_iff {call : Call} (compact : Compact call) (msg : SipMsg) :
    Compact (receive msg ((sdpOf msg).map NegotiatedMedia.ofSession) call) ↔ BringsNew call msg := by
  have ips := ips_receive msg ((sdpOf msg).map NegotiatedMedia.ofSession) call
  have negotiated := negotiated_receive msg call
  constructor
  · intro kept
    refine ⟨fun initial => ?_, fun sess found => ?_, fun sess found => ?_⟩
    · have distinct := kept.ips
      rwa [ips, if_pos initial] at distinct
    · have distinct := kept.endpoints
      rw [negotiated, found, Option.map_some, Option.getD_some, learn_endpoints] at distinct
      split
      · next empty => rwa [if_pos empty] at distinct
      · next listed => rwa [if_neg listed] at distinct
    · have distinct := kept.codecs
      rw [negotiated, found, Option.map_some, Option.getD_some] at distinct
      exact (nodup_codecs_learn compact.codecs sess).mp distinct
  · intro new
    have addresses : (receive msg ((sdpOf msg).map NegotiatedMedia.ofSession) call).ips.Nodup := by
      rw [ips]
      split
      · next initial => exact new.ips initial
      · exact compact.ips
    have media : (((sdpOf msg).map (learn call.negotiated)).getD call.negotiated).endpoints.Nodup ∧
        (((sdpOf msg).map (learn call.negotiated)).getD call.negotiated).pts.Nodup ∧
        (((sdpOf msg).map (learn call.negotiated)).getD call.negotiated).codecs.Nodup := by
      cases found : sdpOf msg with
      | none => exact ⟨compact.endpoints, compact.pts, compact.codecs⟩
      | some sess =>
        refine ⟨?_, nodup_pts_learn compact.pts sess,
          (nodup_codecs_learn compact.codecs sess).mpr (new.codecs sess found)⟩
        have distinct := new.endpoints sess found
        rw [Option.map_some, Option.getD_some, learn_endpoints]
        split
        · next empty => rwa [if_pos empty] at distinct
        · next listed => rwa [if_neg listed] at distinct
    rw [← negotiated] at media
    exact ⟨messages_receive _ _ _, addresses, media.1, media.2.1, media.2.2⟩

/-! ## Runs -/

/-- A message that brings its call only what is new. -/
def Admits (c : Correlator) (input : Iteration × Op) : Prop :=
  ∀ msg, input.2 = .sip msg → BringsNew (addressed c msg) msg

/-- What holds whatever a call receives. -/
structure Capped (call : Call) : Prop where
  messages : call.messages.length ≤ maxMsgsPerCall
  pts : call.negotiated.pts.Nodup

theorem capped_counting : Closed fun _ => Capped := by
  intro update counting id call capped
  cases counting with
  | diagnostic severity => cases severity <;> exact ⟨capped.messages, capped.pts⟩
  | rtp | rtcp | media => exact ⟨capped.messages, capped.pts⟩

theorem capped_receive {call : Call} (capped : Capped call) (msg : SipMsg) :
    Capped (receive msg ((sdpOf msg).map NegotiatedMedia.ofSession) call) := by
  refine ⟨messages_receive _ _ _, ?_⟩
  rw [negotiated_receive]
  cases sdpOf msg with
  | none => exact capped.pts
  | some sess => exact nodup_pts_learn capped.pts sess

/-- In every run, the messages of every call are capped and its payload types distinct. -/
theorem calls_capped (iter : Iteration) (config : Config) (source : String)
    (inputs : List (Iteration × Op)) :
    Each (fun _ => Capped) ((Correlator.new iter config source).run inputs).reg := by
  refine Run.invariant (P := fun c : Correlator => Each (fun _ => Capped) c.reg) (fun c input capped => ?_)
    inputs fun _ _ found => (nomatch found)
  refine each_step capped_counting c input (fun id call _ found => capped id call found) fun msg _ => ?_
  refine capped_receive ?_ msg
  unfold addressed
  cases found : c.reg.calls.lookup msg.callId with
  | none => exact ⟨Nat.zero_le _, List.nodup_nil⟩
  | some call => exact capped msg.callId call found

theorem each_compact_step {c : Correlator} {input : Iteration × Op} (admits : Admits c input)
    (compact : Each (fun _ => Compact) c.reg) : Each (fun _ => Compact) (step c input).reg := by
  refine each_step compact_counting c input (fun id call _ found => compact id call found) ?_
  intro msg heard_msg
  have before : Compact (addressed c msg) := by
    unfold addressed
    cases found : c.reg.calls.lookup msg.callId with
    | none => exact compact_new msg.callId
    | some call => exact compact msg.callId call found
  exact (compact_receive_iff before msg).mpr (admits msg heard_msg)

/-- In a run whose messages bring their calls only what is new, every call is compact in
every state. -/
theorem calls_compact (iter : Iteration) (config : Config) (source : String)
    {inputs : List (Iteration × Op)}
    (admitted : Run.Along step Admits (.new iter config source) inputs) :
    ∀ id call, ((Correlator.new iter config source).run inputs).reg.calls.lookup id = some call →
      Compact call :=
  admitted.invariant (P := fun c => Each (fun _ => Compact) c.reg)
    (fun _ _ admits compact => each_compact_step admits compact) fun _ _ found => nomatch found

/-- An offer, and the media it announces. -/
def offeredMedia : List (Iteration × Op) :=
  [(.stored, .sip (CallIsolation.offer "a" "1")),
    (.stored, .rtp 2 (CallIsolation.mediaFlow 1) ⟨2, 0, 1, 160, 7⟩ 160 .direct)]

theorem offered_call_compact : ∃ call,
    ((Correlator.new .stored {} "eth0").run offeredMedia).reg.calls.lookup "a" = some call ∧
      Compact call := by
  have offered : sdpOf (CallIsolation.offer "a" "1") = some
      { connectionIp := some (.v4 ⟨10, 0, 0, 1⟩)
        media := [⟨"audio", 4000, "RTP/AVP", ["0"], none, []⟩] } := by decide +kernel
  have first : BringsNew (addressed (.new .stored {} "eth0") (CallIsolation.offer "a" "1"))
      (CallIsolation.offer "a" "1") := by
    refine ⟨fun _ => by decide, fun sess found => ?_, fun sess found _ => ?_⟩
    · rw [offered, Option.some_inj] at found
      subst found
      decide +kernel
    · rw [offered, Option.some_inj] at found
      subst found
      decide +kernel
  have admitted : Run.Along step Admits (.new .stored {} "eth0") offeredMedia := by
    refine ⟨fun msg heard_msg => ?_, fun msg heard_msg => (nomatch heard_msg), trivial⟩
    obtain rfl := Op.sip.inj heard_msg
    exact first
  have tracked : (((Correlator.new .stored {} "eth0").run offeredMedia).reg.calls.lookup "a").isSome := by
    decide +kernel
  obtain ⟨call, found⟩ := Option.isSome_iff_exists.mp tracked
  exact ⟨call, found, calls_compact .stored {} "eth0" admitted "a" call found⟩

/-- An INVITE and its retransmission. -/
def repeatedInvite : List (Iteration × Op) :=
  [(.stored, .sip (CallIsolation.offer "a" "1")), (.stored, .sip (CallIsolation.offer "a" "1"))]

/-- The addresses and the endpoints are there twice. -/
theorem repeated_invite_grows : ¬ ∀ id call,
    ((Correlator.new .stored {} "eth0").run repeatedInvite).reg.calls.lookup id = some call →
      Compact call := by
  intro always
  have grown : (((Correlator.new .stored {} "eth0").run repeatedInvite).reg.calls.lookup "a").map
      (fun call => (call.ips.length, call.ips.dedup.length)) = some (4, 2) := by decide +kernel
  obtain ⟨call, found, lengths⟩ := Option.map_eq_some_iff.mp grown
  have same := congrArg List.length (always "a" call found).ips.dedup
  rw [Prod.mk.injEq] at lengths
  omega

end Sipmon.Guarantees.CallMemory
