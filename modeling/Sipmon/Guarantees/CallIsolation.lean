import Sipmon.Guarantees.ShareMedia
import Sipmon.Guarantees.ShareTeardown

/-!
# Calls do not disturb each other

With endpoints and flows assigned to calls, the share of a call in a run of all
messages is its share in the run of its own messages, as long as no RTCP
message speaks of an SSRC another call uses: RTCP is attributed by SSRC alone.
-/
namespace Sipmon.Guarantees.CallIsolation
open Source Lib RegistryShape RegistryIndex CallShare ShareTeardown ShareMedia
open Source.Correlator (Op)

/-- Which call advertises an endpoint, and which call a flow belongs to. -/
structure Parties where
  endpoint : SocketAddr → Option String
  flow : Flow5Tuple → String

namespace Parties

/-- The call a message belongs to. -/
def owner (p : Parties) : Op → Option String
  | .sip msg => some msg.callId
  | .rtp _ flow _ _ _ => some (p.flow flow)
  | .rtcp _ flow _ => some (p.flow flow)
  | _ => none

/-- A SIP, RTP or RTCP message within the assignment: SDP advertises endpoints
of its own call, media with a registered end belongs to the call of that end. -/
def Separates (p : Parties) : Op → Prop
  | .sip msg => ∀ ep ∈ advertised msg, p.endpoint ep = some msg.callId
  | .rtp _ flow _ _ _ =>
    (∀ a ∈ p.endpoint flow.src, a = p.flow flow) ∧ ∀ a ∈ p.endpoint flow.dst, a = p.flow flow
  | .rtcp _ _ _ => True
  | _ => False

instance (p : Parties) : DecidablePred p.Separates
  | .sip msg => inferInstanceAs (Decidable (∀ ep ∈ advertised msg, p.endpoint ep = some msg.callId))
  | .rtp _ flow _ _ _ => inferInstanceAs (Decidable
      ((∀ a ∈ p.endpoint flow.src, a = p.flow flow) ∧ ∀ a ∈ p.endpoint flow.dst, a = p.flow flow))
  | .rtcp _ _ _ => .isTrue trivial
  | .terminal _ | .flush _ | .clear | .touchTime _ | .focus _ | .search _ | .takeEvents
  | .disableEvlogEmit | .enableSessionStats => .isFalse id

/-- An RTCP message speaks of streams of its own call only. -/
def Attributes (p : Parties) (c : Correlator) : Op → Prop
  | .rtcp ts flow msg => Attributed (p.flow flow) c ts msg
  | _ => True

end Parties

/-! ## The assignment holds of what is tracked -/

/-- Where a share has streams and endpoints. -/
structure Footprint where
  streams : StreamKey → Bool
  endpoint : SocketAddr → Bool

def footprint (s : Share) : Footprint := ⟨fun k => (s.streams k).isSome, s.endpoint⟩

theorem footprint_mapCall (s : Share) (f : Call → Call) : footprint (s.mapCall f) = footprint s := rfl

theorem footprint_mapStreams (s : Share) (keys : List StreamKey) (f : RtpStream → RtpStream) :
    footprint (s.mapStreams keys f) = footprint s := by
  have streams : ∀ k, (if k ∈ keys then (s.streams k).map f else s.streams k).isSome =
      (s.streams k).isSome := by
    intro k
    split <;> simp
  simp only [footprint, Share.mapStreams, streams]

theorem footprint_count (s : Share) (severity : Severity) :
    footprint (s.count severity) = footprint s := by
  unfold Share.count
  split <;> rfl

theorem footprint_diagnose (s : Share) (ds : List Diagnostic) :
    footprint (s.diagnose ds) = footprint s := by
  induction ds generalizing s with
  | nil => rfl
  | cons d rest ih => exact (ih (s.count d.severity)).trans (footprint_count s d.severity)

theorem footprint_closing (s : Share) : footprint (closing s) = footprint s := by
  unfold closing
  dsimp only
  split <;> split <;> simp only [footprint_count]

theorem footprint_attach (s : Share) (samples : List Correlator.RtcpSample) :
    footprint (samples.foldl attach s) = footprint s := by
  induction samples generalizing s with
  | nil => rfl
  | cons sample rest ih =>
    have streams : ∀ k, (if k.ssrc = sample.ssrc then
        (s.streams k).map (·.addTiming sample.rttMs sample.onewayMs) else s.streams k).isSome =
        (s.streams k).isSome := by
      intro k
      split <;> simp
    refine (ih (attach s sample)).trans ?_
    simp only [footprint, attach, streams]

/-- The streams and endpoints of the share of `id` are those assigned to `id`. -/
structure Footprint.Within (p : Parties) (id : String) (f : Footprint) : Prop where
  streams : ∀ k, f.streams k = true → p.flow k.flow = id
  endpoint : ∀ ep, f.endpoint ep = true → p.endpoint ep = some id

theorem within_gone (p : Parties) (id : String) (s : Share) :
    (footprint (gone s)).Within p id where
  streams _ tracked := nomatch tracked
  endpoint _ registered := nomatch registered

theorem within_latch {p : Parties} {id : String} {s : Share} (within : (footprint s).Within p id) :
    (footprint (latch s)).Within p id := by
  unfold latch retire
  split
  · have closed : (footprint (closing { s with latched := true })).Within p id := by
      rw [footprint_closing]
      exact within
    split
    · split
      · exact closed
      · exact within_gone p id _
    · exact closed
  · exact within

theorem within_learn {p : Parties} {id : String} {s : Share} {learned : Option NegotiatedMedia}
    (own : ∀ n, learned = some n → ∀ ep ∈ n.endpoints, p.endpoint ep = some id)
    (within : (footprint s).Within p id) : (footprint (s.learn learned)).Within p id := by
  unfold Share.learn
  split
  · next n _ _ =>
    rw [footprint_mapStreams]
    refine ⟨within.streams, fun ep registered => ?_⟩
    rcases Bool.or_eq_true_iff.mp registered with fresh | present
    · exact own n rfl ep (of_decide_eq_true fresh)
    · exact within.endpoint ep present
  · exact within

theorem within_openRtp {p : Parties} {id : String} {s : Share} (ts : UInt64) (flow : Flow5Tuple)
    (header : RtpHeader) (len : Nat) (encap : Encap) (own : p.flow flow = id)
    (within : (footprint s).Within p id) :
    (footprint (openRtp id ts flow header len encap s)).Within p id := by
  have added : ∀ stream,
      (footprint (addStream { flow, ssrc := header.ssrc } stream s)).Within p id := by
    intro stream
    refine ⟨fun k tracked => ?_, within.endpoint⟩
    by_cases here : k = { flow, ssrc := header.ssrc }
    · rw [here]
      exact own
    · refine within.streams k ?_
      simpa only [footprint, addStream, if_neg here] using tracked
  unfold openRtp
  dsimp only
  rw [footprint_mapCall]
  split
  · rw [footprint_mapStreams, footprint_diagnose, footprint_mapCall]
    exact added _
  · rw [footprint_diagnose, footprint_mapCall]
    exact added _

/-- What a message does to the share of its call. -/
def advance (id : String) : Op → Share → Share
  | .sip msg, s => sip msg s
  | .rtp ts flow header len encap, s => rtp id ts flow header len encap s
  | .rtcp ts _ msg, s => rtcp ts msg s
  | _, s => s

theorem within_advance {p : Parties} {id : String} {s : Share} {op : Op}
    (separates : p.Separates op) (own : p.owner op = some id)
    (within : (footprint s).Within p id) : (footprint (advance id op s)).Within p id := by
  cases op with
  | sip msg =>
    obtain rfl : msg.callId = id := Option.some.inj own
    have routed : (footprint (s.route msg)).Within p msg.callId := by
      unfold Share.route
      split <;> exact within
    refine within_latch ?_
    rw [footprint_diagnose]
    refine within_learn (fun n learned ep member => ?_) routed
    obtain ⟨sess, parsed, rfl⟩ := Option.map_eq_some_iff.mp learned
    have listed : advertised msg = sess.endpoints := by rw [advertised, parsed]; rfl
    refine separates ep ?_
    rw [listed]
    exact member
  | rtp ts flow header len encap =>
    simp only [advance, rtp]
    split
    · unfold observe
      rw [footprint_diagnose, footprint_mapCall, footprint_mapStreams]
      exact within
    · split
      · exact within_openRtp ts flow header len encap (Option.some.inj own) within
      · exact within
  | rtcp ts flow msg =>
    simp only [advance, rtcp]
    rw [footprint_attach]
    split <;> exact within
  | _ => exact within

/-- Every share stays within the assignment, and the indexes agree. -/
structure Assigned (p : Parties) (c : Correlator) : Prop where
  settled : Settled c
  within : ∀ id, (footprint (share id c)).Within p id

theorem Assigned.flow_of_stream {p : Parties} {c : Correlator} (assigned : Assigned p c)
    {k : StreamKey} {s : RtpStream} (present : c.reg.streams.lookup k = some s) :
    p.flow k.flow = s.callId := by
  have own := (share_streams s.callId c k s).mpr ⟨present, rfl⟩
  exact (assigned.within s.callId).streams k (by simp [footprint, own])

theorem Assigned.endpoint_of_registered {p : Parties} {c : Correlator} (assigned : Assigned p c)
    {ep : SocketAddr} {a : String} (registered : c.reg.endpointCall.lookup ep = some a) :
    p.endpoint ep = some a :=
  (assigned.within a).endpoint ep (by simp [footprint, share, registered])

theorem Assigned.ownFlow {p : Parties} {c : Correlator} (assigned : Assigned p c)
    {flow : Flow5Tuple} (source : ∀ a ∈ p.endpoint flow.src, a = p.flow flow)
    (destination : ∀ a ∈ p.endpoint flow.dst, a = p.flow flow) : OwnFlow (p.flow flow) c flow where
  streams k s present same := by rw [← assigned.flow_of_stream present, same]
  source a registered := source a (assigned.endpoint_of_registered registered)
  destination a registered := destination a (assigned.endpoint_of_registered registered)

/-! ## One message -/

/-- A message advances the share of its own call and leaves every other alone. -/
theorem share_step {p : Parties} {c : Correlator} (assigned : Assigned p c) (below : Below c.reg)
    (iter : Iteration) {op : Op} (separates : p.Separates op) (attributes : p.Attributes c op)
    (id : String) :
    share id (c.step (iter, op)) =
      if p.owner op = some id then advance id op (share id c) else share id c := by
  have indexed : (shape c.reg).Indexed := assigned.settled.kept.consistent.indexed
  cases op with
  | sip msg =>
    by_cases own : msg.callId = id
    · subst own
      refine Eq.trans ?_ (if_pos rfl).symm
      exact share_ingestSip_own iter assigned.settled below msg
    · refine Eq.trans ?_ (if_neg fun same => own (Option.some.inj same)).symm
      refine share_ingestSip_other iter assigned.settled below msg own fun ep member => ?_
      rw [Bool.eq_false_iff]
      intro registered
      have mine := (assigned.within id).endpoint ep registered
      exact own (Option.some.inj ((separates ep member).symm.trans mine))
  | rtp ts flow header len encap =>
    have ownFlow := assigned.ownFlow separates.1 separates.2
    by_cases own : p.flow flow = id
    · subst own
      refine Eq.trans ?_ (if_pos rfl).symm
      exact share_ingestRtp_own ts header len encap ownFlow
    · refine Eq.trans ?_ (if_neg fun same => own (Option.some.inj same)).symm
      refine share_ingestRtp_other ts header len encap ownFlow own fun k member ssrc => ?_
      rw [Option.eq_none_iff_forall_ne_some]
      intro stream present
      obtain ⟨s, tracked⟩ := (mem_share_keys indexed (p.flow flow) k).mp member
      have theirs := (assigned.within (p.flow flow)).streams k (by simp [footprint, tracked])
      have mine := (assigned.within id).streams { flow := k.flow, ssrc } (by simp [footprint, present])
      exact own (theirs.symm.trans mine)
  | rtcp ts flow msg =>
    by_cases own : p.flow flow = id
    · subst own
      refine Eq.trans ?_ (if_pos rfl).symm
      exact share_ingestRtcp_own indexed ts flow attributes
    · refine Eq.trans ?_ (if_neg fun same => own (Option.some.inj same)).symm
      exact share_ingestRtcp_other indexed ts flow attributes own
  | _ => exact separates.elim

theorem assigned_step {p : Parties} {c : Correlator} (assigned : Assigned p c) (below : Below c.reg)
    (iter : Iteration) {op : Op} (separates : p.Separates op) (attributes : p.Attributes c op) :
    Assigned p (c.step (iter, op)) where
  settled := settled_step c (iter, op) assigned.settled
  within id := by
    rw [share_step assigned below iter separates attributes id]
    split
    · next own => exact within_advance separates own (assigned.within id)
    · exact assigned.within id

theorem assigned_new (p : Parties) (iter : Iteration) (config : Config) (source : String) :
    Assigned p (.new iter config source) where
  settled := settled_new iter config source
  within id := within_gone p id (share id (.new iter config source))

/-! ## Two runs -/

/-- Only the call `id` is tracked. -/
structure Alone (id : String) (c : Correlator) : Prop where
  others : ∀ a, a ≠ id → (share a c).call = none ∧ ∀ k, (share a c).streams k = none

theorem Alone.stream {id : String} {c : Correlator} (alone : Alone id c) {k : StreamKey}
    {s : RtpStream} (present : c.reg.streams.lookup k = some s) : s.callId = id := by
  by_contra other
  have own := (share_streams s.callId c k s).mpr ⟨present, rfl⟩
  exact nomatch own.symm.trans ((alone.others s.callId other).2 k)

/-- The run of everything and the run of one call's messages, side by side. -/
structure SideBySide (p : Parties) (id : String) (full solo : Correlator) : Prop where
  fullAssigned : Assigned p full
  soloAssigned : Assigned p solo
  alone : Alone id solo
  same : share id full = share id solo

/-- One call alone takes no more room than among others. -/
theorem SideBySide.below {p : Parties} {id : String} {full solo : Correlator}
    (side : SideBySide p id full solo) (below : Below full.reg) : Below solo.reg := by
  have calls : solo.reg.calls.size ≤ full.reg.calls.size := by
    refine FiniteMap.size_le_of_mem fun a known => ?_
    obtain ⟨call, found⟩ := Option.isSome_iff_exists.mp (AList.lookup_isSome.mpr known)
    by_cases own : a = id
    · subst own
      have shared : full.reg.calls.lookup a = some call := (congrArg Share.call side.same).trans found
      exact AList.lookup_isSome.mp (Option.isSome_of_eq_some shared)
    · exact nomatch found.symm.trans (side.alone.others a own).1
  have streams : solo.reg.streams.size ≤ full.reg.streams.size := by
    refine FiniteMap.size_le_of_mem fun k tracked => ?_
    obtain ⟨s, found⟩ := Option.isSome_iff_exists.mp (AList.lookup_isSome.mpr tracked)
    have own := (share_streams id solo k s).mpr ⟨found, side.alone.stream found⟩
    rw [← side.same] at own
    exact AList.lookup_isSome.mp (Option.isSome_of_eq_some ((share_streams id full k s).mp own).1)
  have maxCalls : full.reg.maxCalls = solo.reg.maxCalls := congrArg Share.maxCalls side.same
  have maxStreams : full.reg.maxStreams = solo.reg.maxStreams := congrArg Share.maxStreams side.same
  unfold Below at below ⊢
  omega

/-- Alone, every message of the call speaks of its own streams. -/
theorem Alone.attributes {p : Parties} {id : String} {c : Correlator} (alone : Alone id c) {op : Op}
    (own : p.owner op = some id) : p.Attributes c op := by
  cases op with
  | rtcp ts flow msg =>
    obtain rfl : p.flow flow = id := Option.some.inj own
    refine ⟨fun a called => ?_, fun _ _ k s present _ => alone.stream present⟩
    unfold Correlator.callOfSsrc at called
    split at called
    · exact nomatch called
    · obtain ⟨s, found, rfl⟩ := Option.map_eq_some_iff.mp called
      obtain ⟨k, _, present⟩ := Option.bind_eq_some_iff.mp found
      exact alone.stream present
  | _ => trivial

/-- A message of the call moves both runs alike. -/
theorem SideBySide.kept {p : Parties} {id : String} {full solo : Correlator}
    (side : SideBySide p id full solo) (below : Below full.reg) (iter : Iteration) {op : Op}
    (separates : p.Separates op) (attributes : p.Attributes full op)
    (own : p.owner op = some id) :
    SideBySide p id (full.step (iter, op)) (solo.step (iter, op)) := by
  have soloBelow := side.below below
  have soloAttributes := side.alone.attributes own
  have soloStep := share_step side.soloAssigned soloBelow iter separates soloAttributes
  constructor
  case fullAssigned => exact assigned_step side.fullAssigned below iter separates attributes
  case soloAssigned => exact assigned_step side.soloAssigned soloBelow iter separates soloAttributes
  case alone =>
    refine ⟨fun a other => ?_⟩
    rw [soloStep a, if_neg fun theirs => other (Option.some.inj (theirs.symm.trans own))]
    exact side.alone.others a other
  case same =>
    rw [share_step side.fullAssigned below iter separates attributes id, soloStep id, side.same]

/-- A message of another call moves only the full run, and not the share. -/
theorem SideBySide.dropped {p : Parties} {id : String} {full solo : Correlator}
    (side : SideBySide p id full solo) (below : Below full.reg) (iter : Iteration) {op : Op}
    (separates : p.Separates op) (attributes : p.Attributes full op)
    (other : p.owner op ≠ some id) : SideBySide p id (full.step (iter, op)) solo where
  fullAssigned := assigned_step side.fullAssigned below iter separates attributes
  soloAssigned := side.soloAssigned
  alone := side.alone
  same := by
    rw [share_step side.fullAssigned below iter separates attributes id, if_neg other]
    exact side.same

/-- For every assignment of endpoints and flows to calls, every run of SIP, RTP
and RTCP messages within it that stays below the caps, and every call: where
each RTCP message speaks of streams of its own call only, the record of the call
and its streams are those of the run of its own messages. -/
theorem isolated (iter : Iteration) (config : Config) (source : String) (p : Parties) (id : String)
    (inputs : List (Iteration × Op)) (separates : ∀ input ∈ inputs, p.Separates input.2)
    (below : Run.Along Correlator.step (fun c _ => Below c.reg) (.new iter config source) inputs)
    (attributes : Run.Along Correlator.step (fun c input => p.Attributes c input.2)
      (.new iter config source) inputs) :
    share id ((Correlator.new iter config source).run inputs) =
      share id ((Correlator.new iter config source).run
        (inputs.filter fun input => p.owner input.2 = some id)) := by
  have conditions := (Run.along_of_forall _ separates).and (below.and attributes)
  have start : SideBySide p id (.new iter config source) (.new iter config source) :=
    ⟨assigned_new p iter config source, assigned_new p iter config source,
      ⟨fun _ _ => ⟨rfl, fun _ => rfl⟩⟩, rfl⟩
  refine (Run.projection (R := SideBySide p id) ?_ ?_ conditions start).same
  · rintro full solo ⟨iter, op⟩ ⟨separates, below, attributes⟩ own side
    exact side.kept below iter separates attributes (of_decide_eq_true own)
  · rintro full solo ⟨iter, op⟩ ⟨separates, below, attributes⟩ other side
    exact side.dropped below iter separates attributes (of_decide_eq_false other)

/-! ## Two calls with one SSRC -/

def endpointAt (host : UInt8) : SocketAddr := ⟨.v4 ⟨10, 0, 0, host⟩, 4000⟩

/-- An INVITE of `id` that offers media at `10.0.0.<host>:4000`. -/
def offer (id host : String) : SipMsg :=
  { tsUs := 1, isRequest := true, method := some .invite, status := none, toTag := none
    cseqMethod := some "INVITE"
    flow := { proto := .udp, src := ⟨.v4 ⟨10, 0, 0, 9⟩, 5060⟩, dst := ⟨.v4 ⟨10, 0, 0, 8⟩, 5060⟩ }
    callId := id, cseq := some 1, branch := none, fromTag := none, fromUri := none, toUri := none
    raw := ("\r\n\r\nc=IN IP4 10.0.0." ++ host ++ "\nm=audio 4000 RTP/AVP 0\n").toList.map
      fun ch => UInt8.ofNat ch.toNat
    contactAddr := none, routeCount := 0, recordRouteCount := 0, hasSdp := true }

/-- The media of the call whose party is `10.0.0.<host>`. -/
def mediaFlow (host : UInt8) : Flow5Tuple :=
  { proto := .udp, src := endpointAt host, dst := endpointAt 7 }

/-- Calls `a` and `b`, with their parties at `10.0.0.1` and `10.0.0.2`. -/
def twoCalls : Parties where
  endpoint ep := if ep = endpointAt 1 then some "a" else if ep = endpointAt 2 then some "b" else none
  flow flow := if flow.src = endpointAt 2 then "b" else "a"

/-- Both calls set up, one packet each, then a receiver report of `b`. -/
def reported (ssrcA ssrcB : UInt32) : List (Iteration × Op) :=
  [(.stored, .sip (offer "a" "1")), (.stored, .sip (offer "b" "2")),
    (.stored, .rtp 2 (mediaFlow 1) ⟨2, 0, 1, 160, ssrcA⟩ 160 .direct),
    (.stored, .rtp 3 (mediaFlow 2) ⟨2, 0, 1, 160, ssrcB⟩ 160 .direct),
    (.stored, .rtcp 4 (mediaFlow 2) (.rr ⟨ssrcB, []⟩))]

/-- With one SSRC for both, the report of `b` is counted on `a`. -/
theorem shared_ssrc_miscounts :
    (∀ input ∈ reported 7 7, twoCalls.Separates input.2) ∧
      Run.Along Correlator.step (fun c _ => Below c.reg) (.new .stored {} "eth0") (reported 7 7) ∧
      share "a" ((Correlator.new .stored {} "eth0").run (reported 7 7)) ≠
        share "a" ((Correlator.new .stored {} "eth0").run
          ((reported 7 7).filter fun input => twoCalls.owner input.2 = some "a")) := by
  refine ⟨by decide +kernel, by decide +kernel, fun same => ?_⟩
  have counted : ((share "a" ((Correlator.new .stored {} "eth0").run (reported 7 7))).call.map
      Call.pktsRtcp) = some 1 := by decide +kernel
  rw [same] at counted
  exact absurd counted (by decide +kernel)

/-- With an SSRC each, both calls are as they would be alone. -/
theorem isolated_two_ssrcs :
    share "a" ((Correlator.new .stored {} "eth0").run (reported 7 8)) =
      share "a" ((Correlator.new .stored {} "eth0").run
        ((reported 7 8).filter fun input => twoCalls.owner input.2 = some "a")) := by
  refine isolated .stored {} "eth0" twoCalls "a" (reported 7 8) (by decide +kernel)
    (by decide +kernel) ⟨trivial, trivial, trivial, trivial, ⟨?_, ?_⟩, trivial⟩
  · change ∀ a ∈ (_ : Option String), a = "b"
    decide +kernel
  · exact fun sample member => (List.not_mem_nil member).elim

end Sipmon.Guarantees.CallIsolation
