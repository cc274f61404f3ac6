import Sipmon.Guarantees.CallShare

/-!
# Media in the share of a call

RTP reaches the call of its flow, RTCP the calls that own a stream of its
SSRCs. The equations for RTP need the flows of different calls apart; those for
RTCP need the SSRCs of the message apart as well, since the flow it arrived on
is not consulted.
-/
namespace Sipmon.Guarantees.ShareMedia
open Source Lib RegistryShape Views RegistryIndex CallShare

/-! ## RTP -/

/-- A packet of a tracked stream. -/
def observe (ts : UInt64) (header : RtpHeader) (len : Nat) (key : StreamKey) (stream : RtpStream)
    (s : Share) : Share :=
  ((s.mapStreams [key] (·.observe ts header len)).mapCall (Correlator.countRtp ts)).diagnose
    (checkPtChange ts stream.callId header.ssrc header.payloadType stream.lastPt).toList

theorem checkPtChange_callId (ts : UInt64) (id : String) (ssrc : UInt32) (pt : UInt8)
    (prev : Option UInt8) : ∀ d ∈ (checkPtChange ts id ssrc pt prev).toList, d.callId = id := by
  unfold checkPtChange
  cases prev with
  | none => simp
  | some p =>
    dsimp only [Option.bind_some]
    split <;> simp [diag]

theorem share_observeExistingRtp_own (c : Correlator) (ts : UInt64) (header : RtpHeader) (len : Nat)
    (key : StreamKey) (stream : RtpStream) :
    share stream.callId (c.observeExistingRtp ts header len key stream) =
      observe ts header len key stream (share stream.callId c) := by
  unfold Correlator.observeExistingRtp observe
  dsimp only
  rw [share_addDiagnostics_own _ (checkPtChange_callId _ _ _ _ _)]
  refine congrArg (Share.diagnose · _) ?_
  refine (share_updateCall_own stream.callId
    { c with reg := c.reg.updateStream key (·.observe ts header len) } _).trans ?_
  rw [share_updateStream _ c key fun s => observe_callId s ts header len]

theorem share_observeExistingRtp_other {id : String} {c : Correlator} (ts : UInt64)
    (header : RtpHeader) (len : Nat) {key : StreamKey} {stream : RtpStream}
    (present : c.reg.streams.lookup key = some stream) (other : stream.callId ≠ id) :
    share id (c.observeExistingRtp ts header len key stream) = share id c := by
  unfold Correlator.observeExistingRtp
  dsimp only
  rw [share_addDiagnostics_other _ (checkPtChange_callId _ _ _ _ _) other]
  refine (share_updateCall_other
    { c with reg := c.reg.updateStream key (·.observe ts header len) } _ other).trans ?_
  rw [share_updateStream _ c key fun s => observe_callId s ts header len]
  refine Share.mapStreams_absent _ fun k member => share_streams_other fun s found => ?_
  obtain rfl := List.mem_singleton.mp member
  exact Option.some.inj (present.symm.trans found) ▸ other

/-- A new stream of the call. -/
def addStream (key : StreamKey) (stream : RtpStream) (s : Share) : Share :=
  { s with streams := fun k => if k = key then some stream else s.streams k, keys := s.keys ++ [key] }

theorem share_noteStream_own {id : String} (c : Correlator) (key : StreamKey) {stream : RtpStream}
    (owned : stream.callId = id) :
    share id { c with reg :=
        { c.reg with streams := c.reg.streams.insert key stream }.noteStream id key } =
      addStream key stream (share id c) := by
  have streams : ∀ k, ((c.reg.streams.insert key stream).lookup k).filter (fun s => s.callId = id) =
      if k = key then some stream
      else (c.reg.streams.lookup k).filter fun s => s.callId = id := by
    intro k
    rw [FiniteMap.lookup_insert_iff]
    split
    · simp [Option.filter, owned]
    · rfl
  have keys := GroupIndex.members_push id id key c.reg.streamIndex
  rw [if_pos rfl] at keys
  simp only [share, addStream, Registry.callStreamKeys, Registry.noteStream, streams, keys]

theorem share_noteStream_other {id a : String} {c : Correlator} {key : StreamKey}
    {stream : RtpStream} (fresh : c.reg.streams.lookup key = none) (owned : stream.callId = a)
    (other : a ≠ id) :
    share id { c with reg :=
        { c.reg with streams := c.reg.streams.insert key stream }.noteStream a key } =
      share id c := by
  have streams : ∀ k, ((c.reg.streams.insert key stream).lookup k).filter (fun s => s.callId = id) =
      (c.reg.streams.lookup k).filter fun s => s.callId = id := by
    intro k
    rw [FiniteMap.lookup_insert_iff]
    split
    · next here =>
      rw [here, fresh]
      simp [Option.filter, owned, other]
    · rfl
  have keys := GroupIndex.members_push id a key c.reg.streamIndex
  rw [if_neg other.symm] at keys
  simp only [share, Registry.callStreamKeys, Registry.noteStream, streams, keys]

/-- A packet of a flow that is not tracked yet. -/
def openRtp (id : String) (ts : UInt64) (flow : Flow5Tuple) (header : RtpHeader) (len : Nat)
    (encap : Encap) (s : Share) : Share :=
  let reverseExists := s.keys.any fun k => k.flow == flow.reverse
  let leg := s.turn.legOf flow
  let neg := s.call.map Call.negotiated
  let stream := RtpStream.new flow header.ssrc id
  let opened := Correlator.openStream neg leg encap reverseExists ts header len stream
  let ds := Correlator.openDiagnostics id neg leg encap (Correlator.turnNoteDue stream encap leg) ts
    flow header
  let s := addStream { flow, ssrc := header.ssrc } opened s
  let s := (s.mapCall (Correlator.noteMedia flow (leg.isSome || encap != .direct))).diagnose ds
  let s := if reverseExists then
      s.mapStreams [{ flow := flow.reverse, ssrc := header.ssrc }] fun s => { s with reverseSeen := true }
    else s
  s.mapCall (Correlator.countRtp ts)

theorem openDiagnostics_callId (id : String) (neg : Option NegotiatedMedia) (leg : Option Leg)
    (encap : Encap) (note : Bool) (ts : UInt64) (flow : Flow5Tuple) (header : RtpHeader) :
    ∀ d ∈ Correlator.openDiagnostics id neg leg encap note ts flow header, d.callId = id := by
  have negotiated : ∀ neg : NegotiatedMedia,
      ∀ d ∈ (checkRtpPt ts id header.ssrc header.payloadType neg).toList ++
        (checkRtpFlow ts id flow neg).toList, d.callId = id := by
    intro neg
    unfold checkRtpPt checkRtpFlow
    split <;> split <;> simp [diag]
  intro d member
  unfold Correlator.openDiagnostics at member
  simp only [List.mem_append] at member
  rcases member with (raised | raised) | raised
  · split at raised
    · exact negotiated _ d raised
    · exact (List.not_mem_nil raised).elim
  · split at raised
    · rw [List.mem_singleton.mp raised]; rfl
    · rw [List.mem_singleton.mp raised]; rfl
    · exact (List.not_mem_nil raised).elim
  · split at raised
    · rw [List.mem_singleton.mp raised]; rfl
    · exact (List.not_mem_nil raised).elim

theorem share_openRtp_own (c : Correlator) (ts : UInt64) (flow : Flow5Tuple) (header : RtpHeader)
    (len : Nat) (encap : Encap) (id : String)
    (fresh : c.reg.streams.lookup { flow, ssrc := header.ssrc } = none) :
    share id (c.openRtp ts flow header len encap id) =
      openRtp id ts flow header len encap (share id c) := by
  unfold Correlator.openRtp openRtp
  dsimp only
  rw [fresh, Option.getD_none]
  have keys : (share id c).keys = c.reg.callStreamKeys id := rfl
  have neg : (share id c).call = c.reg.calls.lookup id := rfl
  have turn : (share id c).turn = c.turn := rfl
  rw [keys, neg, turn]
  generalize opened : Correlator.openStream _ _ _ _ _ _ _ _ = stream
  have owned : stream.callId = id := by
    rw [← opened, openStream_callId]
    rfl
  have noted : ∀ relayed, share id { c with reg :=
      ({ c.reg with streams := c.reg.streams.insert { flow, ssrc := header.ssrc } stream }.noteStream id
        { flow, ssrc := header.ssrc }).updateCall id (Correlator.noteMedia flow relayed) } =
      (addStream { flow, ssrc := header.ssrc } stream (share id c)).mapCall
        (Correlator.noteMedia flow relayed) := by
    intro relayed
    rw [← share_noteStream_own c _ owned]
    exact share_updateCall_own id { c with reg := Registry.noteStream _ id _ } _
  rw [← noted, ← share_addDiagnostics_own _ (openDiagnostics_callId _ _ _ _ _ _ _ _)]
  generalize Correlator.addDiagnostics _ _ = d
  split
  · refine (share_updateCall_own id { d with reg := Registry.updateStream d.reg _ _ } _).trans ?_
    exact congrArg (Share.mapCall _) (share_updateStream id d _ fun _ => rfl)
  · exact share_updateCall_own id d _

/-- A new stream of another call, none of whose flows carries a stream of this one. -/
theorem share_openRtp_other {c : Correlator} (ts : UInt64) (flow : Flow5Tuple) (header : RtpHeader)
    (len : Nat) (encap : Encap) {id a : String}
    (fresh : c.reg.streams.lookup { flow, ssrc := header.ssrc } = none) (other : a ≠ id)
    (disjoint : ∀ k ∈ (share a c).keys, ∀ ssrc,
      (share id c).streams { flow := k.flow, ssrc } = none) :
    share id (c.openRtp ts flow header len encap a) = share id c := by
  unfold Correlator.openRtp
  dsimp only
  rw [fresh, Option.getD_none]
  generalize opened : Correlator.openStream _ _ _ _ _ _ _ _ = stream
  have owned : stream.callId = a := by
    rw [← opened, openStream_callId]
    rfl
  have noted : ∀ relayed, share id { c with reg :=
      ({ c.reg with streams := c.reg.streams.insert { flow, ssrc := header.ssrc } stream }.noteStream a
        { flow, ssrc := header.ssrc }).updateCall a (Correlator.noteMedia flow relayed) } =
      share id c := by
    intro relayed
    rw [← share_noteStream_other fresh owned other]
    exact share_updateCall_other { c with reg := Registry.noteStream _ a _ } _ other
  generalize diagnosed : Correlator.addDiagnostics _ _ = d
  have same : share id d = share id c := by
    rw [← diagnosed, share_addDiagnostics_other _ (openDiagnostics_callId _ _ _ _ _ _ _ _) other,
      noted]
  split
  · next reverse =>
    obtain ⟨k, member, flows⟩ := List.any_eq_true.mp reverse
    have silent := disjoint k member header.ssrc
    rw [eq_of_beq flows, ← same] at silent
    refine (share_updateCall_other { d with reg := Registry.updateStream d.reg _ _ } _ other).trans ?_
    refine Eq.trans (share_updateStream id d _ ?_) (Eq.trans ?_ same)
    · exact fun _ => rfl
    · refine Share.mapStreams_absent _ fun k member => ?_
      rw [List.mem_singleton.mp member]
      exact silent
  · exact (share_updateCall_other d _ other).trans same

/-- One RTP packet in the share of the call its flow belongs to. -/
def rtp (id : String) (ts : UInt64) (flow : Flow5Tuple) (header : RtpHeader) (len : Nat)
    (encap : Encap) (s : Share) : Share :=
  match s.streams { flow, ssrc := header.ssrc } with
  | some stream => observe ts header len { flow, ssrc := header.ssrc } stream s
  | none =>
    if s.endpoint flow.src || s.endpoint flow.dst then openRtp id ts flow header len encap s else s

/-- Only the call `id` has streams on the flow, and only it has registered its ends. -/
structure OwnFlow (id : String) (c : Correlator) (flow : Flow5Tuple) : Prop where
  streams : ∀ k s, c.reg.streams.lookup k = some s → k.flow = flow → s.callId = id
  source : ∀ a, c.reg.endpointCall.lookup flow.src = some a → a = id
  destination : ∀ a, c.reg.endpointCall.lookup flow.dst = some a → a = id

theorem callOfFlow_own {id : String} {c : Correlator} {flow : Flow5Tuple}
    (own : OwnFlow id c flow) :
    Correlator.callOfFlow c.reg flow =
      if (share id c).endpoint flow.src || (share id c).endpoint flow.dst then some id else none := by
  cases source : c.reg.endpointCall.lookup flow.src with
  | some a =>
    obtain rfl := own.source a source
    simp [Correlator.callOfFlow, share, source]
  | none =>
    cases destination : c.reg.endpointCall.lookup flow.dst with
    | some b =>
      obtain rfl := own.destination b destination
      simp [Correlator.callOfFlow, share, source, destination]
    | none => simp [Correlator.callOfFlow, share, source, destination]

theorem share_ingestRtp_own {c : Correlator} (ts : UInt64) {flow : Flow5Tuple} (header : RtpHeader)
    (len : Nat) (encap : Encap) {id : String} (own : OwnFlow id c flow) :
    share id (c.ingestRtp ts flow header len encap) =
      rtp id ts flow header len encap (share id c) := by
  unfold Correlator.ingestRtp rtp
  dsimp only
  cases found : c.reg.streams.lookup { flow, ssrc := header.ssrc } with
  | some stream =>
    have owned := own.streams _ stream found rfl
    have present := (share_streams id c _ stream).mpr ⟨found, owned⟩
    rw [present]
    subst owned
    exact share_observeExistingRtp_own c ts header len _ stream
  | none =>
    have absent : (share id c).streams { flow, ssrc := header.ssrc } = none :=
      share_streams_other fun s present => nomatch found.symm.trans present
    rw [absent, callOfFlow_own own]
    by_cases registered : ((share id c).endpoint flow.src || (share id c).endpoint flow.dst) = true
    · rw [if_pos registered, if_pos registered]
      exact share_openRtp_own c ts flow header len encap id found
    · rw [if_neg registered, if_neg registered]

theorem share_ingestRtp_other {c : Correlator} (ts : UInt64) {flow : Flow5Tuple}
    (header : RtpHeader) (len : Nat) (encap : Encap) {id a : String} (own : OwnFlow a c flow)
    (other : a ≠ id) (disjoint : ∀ k ∈ (share a c).keys, ∀ ssrc,
      (share id c).streams { flow := k.flow, ssrc } = none) :
    share id (c.ingestRtp ts flow header len encap) = share id c := by
  unfold Correlator.ingestRtp
  dsimp only
  cases found : c.reg.streams.lookup { flow, ssrc := header.ssrc } with
  | some stream =>
    have owned := own.streams _ stream found rfl
    exact share_observeExistingRtp_other ts header len found (owned ▸ other)
  | none =>
    dsimp only
    rw [callOfFlow_own own]
    split
    · next b registered =>
      split at registered
      · obtain rfl := Option.some.inj registered
        exact share_openRtp_other ts flow header len encap found other disjoint
      · exact nomatch registered
    · rfl

/-! ## RTCP -/

/-- One sample on the streams of its SSRC. -/
def attach (s : Share) (sample : Correlator.RtcpSample) : Share :=
  { s with streams := fun k =>
      if k.ssrc = sample.ssrc then (s.streams k).map (·.addTiming sample.rttMs sample.onewayMs)
      else s.streams k }

/-- Whether the call has a stream with the SSRC of a sender. -/
def heard (s : Share) (ssrc : UInt32) : Bool := ssrc != 0 && s.keys.any fun k => k.ssrc == ssrc

/-- One RTCP message in the share of its call. -/
def rtcp (ts : UInt64) (msg : RtcpMessage) (s : Share) : Share :=
  let s := if heard s (Correlator.senderSsrc msg) then s.mapCall (Correlator.countRtcp ts) else s
  (Correlator.rtcpSamples ts msg).foldl attach s

/-- The streams the message speaks of are streams of the call it belongs to. -/
structure Attributed (id : String) (c : Correlator) (ts : UInt64) (msg : RtcpMessage) : Prop where
  sender : ∀ a, Correlator.callOfSsrc c.reg (Correlator.senderSsrc msg) = some a → a = id
  samples : ∀ sample ∈ Correlator.rtcpSamples ts msg, ∀ k s,
    c.reg.streams.lookup k = some s → k.ssrc = sample.ssrc → s.callId = id

theorem mem_ssrcKeys {reg : Registry} (indexed : (shape reg).Indexed) (ssrc : UInt32)
    (k : StreamKey) :
    k ∈ Correlator.ssrcKeys reg ssrc ↔ (∃ s, reg.streams.lookup k = some s) ∧ k.ssrc = ssrc := by
  refine (indexed.bySsrc.member_iff k ssrc).trans ?_
  simp only [ssrcOwner, shape, Option.map_map]
  cases reg.streams.lookup k <;> simp

/-- Streams of any call take the samples of their SSRC. -/
theorem share_attachSample {c : Correlator} (indexed : (shape c.reg).Indexed) (id : String)
    (ts : UInt64) (sample : Correlator.RtcpSample) :
    share id (Correlator.attachSample ts c sample) = attach (share id c) sample := by
  have updated := share_updateStreams id
    (f := (·.addTiming sample.rttMs sample.onewayMs)) (fun _ => rfl)
    (Correlator.ssrcKeys c.reg sample.ssrc) (indexed.bySsrc.nodup sample.ssrc) c
  have attached : (share id c).mapStreams (Correlator.ssrcKeys c.reg sample.ssrc)
      (·.addTiming sample.rttMs sample.onewayMs) = attach (share id c) sample := by
    have streams : ∀ k, (if k ∈ Correlator.ssrcKeys c.reg sample.ssrc then
          ((share id c).streams k).map (·.addTiming sample.rttMs sample.onewayMs)
        else (share id c).streams k) =
        if k.ssrc = sample.ssrc then
          ((share id c).streams k).map (·.addTiming sample.rttMs sample.onewayMs)
        else (share id c).streams k := by
      intro k
      have listed := mem_ssrcKeys indexed sample.ssrc k
      by_cases same : k.ssrc = sample.ssrc
      · rw [if_pos same]
        split
        · rfl
        · next absent =>
          have none : (share id c).streams k = none := share_streams_other fun s present =>
            (absent (listed.mpr ⟨⟨s, present⟩, same⟩)).elim
          rw [none]
          rfl
      · rw [if_neg same, if_neg fun member => same (listed.mp member).2]
    simp only [Share.mapStreams, attach, streams]
  unfold Correlator.attachSample
  dsimp only
  split
  · exact updated.trans attached
  · exact updated.trans attached

theorem share_attachSamples {c : Correlator} (indexed : (shape c.reg).Indexed) (id : String)
    (ts : UInt64) (samples : List Correlator.RtcpSample) :
    share id (samples.foldl (Correlator.attachSample ts) c) = samples.foldl attach (share id c) := by
  induction samples generalizing c with
  | nil => rfl
  | cons sample rest ih =>
    have same : shape (Correlator.attachSample ts c sample).reg = shape c.reg :=
      congrArg Books.registry (books_attachSample ts c sample)
    rw [List.foldl_cons, ih (same.symm ▸ indexed), share_attachSample indexed, List.foldl_cons]

/-- Samples for SSRCs the call does not use leave its share alone. -/
theorem attach_absent {s : Share} (samples : List Correlator.RtcpSample)
    (absent : ∀ sample ∈ samples, ∀ k, k.ssrc = sample.ssrc → s.streams k = none) :
    samples.foldl attach s = s := by
  induction samples with
  | nil => rfl
  | cons sample rest ih =>
    have same : attach s sample = s := by
      refine congrArg (fun streams => { s with streams }) (funext fun k => ?_)
      split
      · next ssrc =>
        rw [absent sample List.mem_cons_self k ssrc]
        rfl
      · rfl
    rw [List.foldl_cons, same, ih fun sample member => absent sample (List.mem_cons_of_mem _ member)]

/-- Below the call of a stream with the sender's SSRC. -/
theorem callOfSsrc_heard {c : Correlator} (indexed : (shape c.reg).Indexed) {id : String}
    {ssrc : UInt32} (own : ∀ a, Correlator.callOfSsrc c.reg ssrc = some a → a = id) :
    Correlator.callOfSsrc c.reg ssrc = if heard (share id c) ssrc then some id else none := by
  have reached : ∀ k s, c.reg.streams.lookup k = some s → k.ssrc = ssrc → ssrc ≠ 0 →
      ∃ a, Correlator.callOfSsrc c.reg ssrc = some a := by
    intro k s present same nonzero
    have member := (mem_ssrcKeys indexed ssrc k).mpr ⟨⟨s, present⟩, same⟩
    obtain ⟨first, rest, keys⟩ := List.exists_cons_of_ne_nil (List.ne_nil_of_mem member)
    have front : first ∈ Correlator.ssrcKeys c.reg ssrc := keys ▸ List.mem_cons_self
    obtain ⟨t, found⟩ := ((mem_ssrcKeys indexed ssrc first).mp front).1
    exact ⟨t.callId, by simp [Correlator.callOfSsrc, nonzero, keys, found]⟩
  cases called : Correlator.callOfSsrc c.reg ssrc with
  | some a =>
    obtain rfl := own a called
    have yes : heard (share a c) ssrc = true := by
      unfold Correlator.callOfSsrc at called
      split at called
      · exact nomatch called
      · next nonzero =>
        obtain ⟨s, found, owned⟩ := Option.map_eq_some_iff.mp called
        obtain ⟨k, front, found⟩ := Option.bind_eq_some_iff.mp found
        have member := List.mem_of_head? front
        have same := ((mem_ssrcKeys indexed ssrc k).mp member).2
        have listed : k ∈ (share a c).keys :=
          (mem_share_keys indexed a k).mpr ⟨s, (share_streams a c k s).mpr ⟨found, owned⟩⟩
        simp only [heard, Bool.and_eq_true, bne_iff_ne, List.any_eq_true, beq_iff_eq]
        exact ⟨nonzero, k, listed, same⟩
    rw [if_pos yes]
  | none =>
    have no : heard (share id c) ssrc = false := by
      rw [Bool.eq_false_iff]
      intro yes
      simp only [heard, Bool.and_eq_true, bne_iff_ne, List.any_eq_true, beq_iff_eq] at yes
      obtain ⟨nonzero, k, listed, same⟩ := yes
      obtain ⟨s, present⟩ := (mem_share_keys indexed id k).mp listed
      obtain ⟨a, found⟩ := reached k s ((share_streams id c k s).mp present).1 same nonzero
      exact nomatch called.symm.trans found
    rw [no]
    rfl

theorem share_ingestRtcp_own {c : Correlator} (indexed : (shape c.reg).Indexed) (ts : UInt64)
    (flow : Flow5Tuple) {msg : RtcpMessage} {id : String} (attributed : Attributed id c ts msg) :
    share id (c.ingestRtcp ts flow msg) = rtcp ts msg (share id c) := by
  unfold Correlator.ingestRtcp rtcp
  dsimp only
  rw [callOfSsrc_heard indexed attributed.sender]
  by_cases yes : heard (share id c) (Correlator.senderSsrc msg) = true
  · rw [if_pos yes, if_pos yes]
    dsimp only
    rw [← share_updateCall_own]
    refine share_attachSamples ?_ id ts _
    exact (shape_updateCall c.reg id (Correlator.countRtcp ts)).symm ▸ indexed
  · rw [if_neg yes, if_neg yes]
    exact share_attachSamples indexed id ts _

theorem share_ingestRtcp_other {c : Correlator} (indexed : (shape c.reg).Indexed) (ts : UInt64)
    (flow : Flow5Tuple) {msg : RtcpMessage} {id a : String} (attributed : Attributed a c ts msg)
    (other : a ≠ id) : share id (c.ingestRtcp ts flow msg) = share id c := by
  have silent : ∀ sample ∈ Correlator.rtcpSamples ts msg, ∀ k, k.ssrc = sample.ssrc →
      (share id c).streams k = none := fun sample member k same =>
    share_streams_other fun s present => attributed.samples sample member k s present same ▸ other
  unfold Correlator.ingestRtcp
  dsimp only
  cases called : Correlator.callOfSsrc c.reg (Correlator.senderSsrc msg) with
  | none =>
    dsimp only
    rw [share_attachSamples indexed, attach_absent _ silent]
  | some b =>
    obtain rfl := attributed.sender b called
    have same : share id { c with reg := c.reg.updateCall b (Correlator.countRtcp ts) } =
        share id c := share_updateCall_other c _ other
    dsimp only
    rw [share_attachSamples ((shape_updateCall c.reg b _).symm ▸ indexed), same,
      attach_absent _ silent]

end Sipmon.Guarantees.ShareMedia
