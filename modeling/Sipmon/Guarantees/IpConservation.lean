import Sipmon.Guarantees.CallIsolation
import Sipmon.Guarantees.StreamStages

/-!
# Conservation of per-IP traffic

Over a run, what the meters hold is what was accepted into streams, less the
residuals of the streams evicted at the stream cap. An attribution pass leaves
nothing pending, so after it the rows of the store add up to that. The counters
are 64 bits wide: the run has accepted less than that.
-/
namespace Sipmon.Guarantees.IpConservation
open Source Lib Views IpTraffic Stages StreamStages Correlator

theorem settles_keeps : Settles counts Keeps where
  reclock := counts_reclock
  sample := counts_sample
  timing _ _ _ := rfl
  reversed _ := rfl
  trans first second := first.andThen second
  kept := .of_same
  updated reg key _ same := keeps_updateStream reg key same
  active := keeps_addActive
  dropped := keeps_dropStream

/-! ## Where the stream cap is enforced -/

/-- The streams a step evicts at the stream cap. -/
def evicted (c : Correlator) (input : Iteration × Op) : List RtpStream :=
  ((capPoint c input).map (capTails input.1)).getD []

theorem balanced_retireCall (iter : Iteration) (c : Correlator) (id : String) :
    Balanced (tailsPending (((retirePoint c id).map (capTails iter)).getD [])) c.reg
      (c.retireCall iter id).reg := by
  unfold retireCall retirePoint
  cases c.reg.calls.lookup id with
  | none => exact Balanced.refl c.reg
  | some call =>
    have reported := settles_keeps.reportTeardown c id call
    have keep := keepTerminated_reportTeardown c id call
    dsimp only
    cases call.state.terminal with
    | false => exact Balanced.refl c.reg
    | true =>
      rw [keep]
      cases c.keepTerminated with
      | true => exact reported.andThen (balanced_evictIfNeeded iter _)
      | false => exact reported.andThen (settles_keeps.removeCalls _ [id])

theorem keeps_pruneRemovedBookkeeping (c : Correlator) : Keeps c.reg c.pruneRemovedBookkeeping.reg :=
  .of_same rfl rfl

theorem balanced_onCallTerminal (iter : Iteration) (c : Correlator) (id : String) :
    Balanced (tailsPending (((terminalPoint c id).map (capTails iter)).getD [])) c.reg
      (c.onCallTerminal iter id).reg := by
  have checked := settles_keeps.respects.teardownChecks c id
  have retired := balanced_retireCall iter (c.teardownChecks id) id
  unfold onCallTerminal
  exact (Balanced.andThen checked retired).then_keeps (keeps_pruneRemovedBookkeeping _)

theorem balanced_ingestSip (iter : Iteration) (c : Correlator) (msg : SipMsg) :
    Balanced (tailsPending (((sipPoint c msg).map (capTails iter)).getD [])) c.reg
      (c.ingestSip iter msg).reg := by
  rw [ingestSip_received]
  refine (settles_keeps.received c msg).andThen ?_
  unfold latchTerminal sipPoint
  dsimp only
  split
  · exact balanced_onCallTerminal iter { received c msg with
      terminalDone := insert msg.callId (received c msg).terminalDone } msg.callId
  · exact Balanced.refl _

/-! ## The periodic pass -/

theorem keeps_attributeIpStats (iter : Iteration) (c : Correlator) :
    Keeps c.reg (c.attributeIpStats iter).reg := .foldl keeps_flushStreamIpattr _ c.reg

theorem keeps_ipattrTick (iter : Iteration) (c : Correlator) (ts : UInt64) :
    Keeps c.reg (c.ipattrTick iter ts).reg := by
  unfold ipattrTick
  dsimp only
  split <;> split
  · exact keeps_attributeIpStats iter { c with lastIpattrUs := some ts }
  · exact keeps_attributeIpStats iter c
  · exact .refl c.reg
  · exact .refl c.reg

/-- The state of the periodic pass before it prunes idle addresses. -/
def beforePrune (iter : Iteration) (c : Correlator) (ts : UInt64) : Correlator :=
  ((snapped iter c ts).evictPass iter ts).pruneRemovedBookkeeping

/-- No clear and no idle address to prune. -/
def Spares (c : Correlator) (input : Iteration × Op) : Prop :=
  match input.2 with
  | .clear => False
  | .flush ts => tickerDue (c.ipattrTick input.1 ts).lastFlushUs ts flushPeriodUs = true →
      ∀ row ∈ (beforePrune input.1 c ts).reg.ipstats.toList,
        0 < row.2.activeCalls ∨ ts.toNat - ipstatsIdleUs ≤ (row.2.lastSeenUs.getD 0).toNat
  | _ => True

theorem keeps_pruneIdleIps (c : Correlator) (ts : UInt64)
    (spared : ∀ row ∈ c.reg.ipstats.toList,
      0 < row.2.activeCalls ∨ ts.toNat - ipstatsIdleUs ≤ (row.2.lastSeenUs.getD 0).toNat) :
    Keeps c.reg (c.pruneIdleIps ts).reg := by
  unfold pruneIdleIps
  generalize ts.toNat - ipstatsIdleUs = cutoff at spared ⊢
  refine .of_same rfl ?_
  dsimp only [IpStatsStore.pruneIdle]
  refine FiniteMap.retain_eq_self fun row listed => ?_
  simpa only [Bool.or_eq_true, decide_eq_true_eq] using spared row listed

/-- What follows the attribution ticker in a periodic flush. -/
theorem balanced_afterTick (iter : Iteration) (c : Correlator) (ts : UInt64)
    (spared : Spares c (iter, .flush ts)) :
    Balanced (tailsPending (evicted c (iter, .flush ts))) (c.ipattrTick iter ts).reg
      (c.maybePeriodicFlush iter ts).reg := by
  unfold evicted capPoint flushPoint maybePeriodicFlush
  dsimp only
  by_cases due : tickerDue (c.ipattrTick iter ts).lastFlushUs ts flushPeriodUs = true
  · have snap := settles_keeps.snapped iter c ts
    have stale := settles_keeps.unstale iter (snapped iter c ts) ts
    have cut := balanced_evictIfNeeded iter (unstale iter (snapped iter c ts) ts)
    have cleaned := keeps_pruneRemovedBookkeeping ((snapped iter c ts).evictPass iter ts)
    have pruned := keeps_pruneIdleIps (beforePrune iter c ts) ts (spared due)
    simp only [due, Bool.or_true, if_true, Option.map_some, Option.getD_some]
    exact ((snap.andThen (stale.andThen cut)).then_keeps cleaned).then_keeps pruned
  · simp only [due, Bool.or_false, if_false, Bool.false_eq_true, Option.map_none, Option.getD_none]
    split <;> exact Balanced.refl _

theorem balanced_flush (iter : Iteration) (c : Correlator) (ts : UInt64)
    (spared : Spares c (iter, .flush ts)) :
    Balanced (tailsPending (evicted c (iter, .flush ts))) c.reg (c.maybePeriodicFlush iter ts).reg :=
  Balanced.andThen (keeps_ipattrTick iter c ts) (balanced_afterTick iter c ts spared)

/-! ## Packets -/

/-- A stage that takes a packet of a payload length into a stream. -/
structure Accepts (len : Nat) (reg after : Registry) : Prop where
  held : Every Counts.Sound reg → ∀ m, held m reg + m.weight len < 2 ^ 64 →
    held m after = held m reg + m.weight len
  sound : Every Counts.Sound reg → Every Counts.Sound after

theorem Accepts.then_keeps {len : Nat} {a b c : Registry} (first : Accepts len a b)
    (second : Keeps b c) : Accepts len a c := by
  refine ⟨fun sound m fits => ?_, fun sound => second.every _ sound_marked (first.sound sound)⟩
  have early := first.held sound m fits
  have late := second.held m (by omega)
  omega

theorem accepts_observe {reg : Registry} {key : StreamKey} {s : RtpStream}
    (present : reg.streams.lookup key = some s) (ts : UInt64) (header : RtpHeader) (len : Nat) :
    Accepts len reg (reg.updateStream key (·.observe ts header len)) := by
  constructor
  · intro sound m _
    have moved := FiniteMap.total_modify m.pending key (·.observe ts header len) reg.streams
    have counted := pending_observe (sound key s present) ts header len m
    rw [present] at moved
    simp only [Option.map_some, Option.getD_some, Function.comp_apply, counted] at moved
    simp only [IpTraffic.held, Registry.updateStream]
    omega
  · intro sound k t listed
    simp only [Registry.updateStream, FiniteMap.lookup_modify] at listed
    split at listed
    · obtain ⟨u, before, rfl⟩ := Option.map_eq_some_iff.mp listed
      exact sound_observe (sound k u before) ts header len
    · exact sound k t listed

theorem accepts_existing {c : Correlator} {key : StreamKey} {s : RtpStream}
    (present : c.reg.streams.lookup key = some s) (ts : UInt64) (header : RtpHeader) (len : Nat) :
    Accepts len c.reg (c.observeExistingRtp ts header len key s).reg := by
  have observed := accepts_observe present ts header len
  exact observed.then_keeps (settles_keeps.observeExistingRtp c ts header len key s)

/-- The first packet of a stream is all there is to attribute. -/
theorem counts_openStream {s : RtpStream} (fresh : counts s = ⟨0, 0, 0, 0⟩)
    (neg : Option NegotiatedMedia) (leg : Option Leg) (encap : Encap) (reverseExists : Bool)
    (ts : UInt64) (header : RtpHeader) (len : Nat) :
    counts (openStream neg leg encap reverseExists ts header len s) = ⟨1, len, 0, 0⟩ := by
  have clocked : ∀ t : RtpStream, counts t = ⟨0, 0, 0, 0⟩ →
      counts (t.observe ts header len) = ⟨1, len, 0, 0⟩ := by
    intro t empty
    obtain ⟨packets, bytes, attrPackets, attrBytes⟩ := Counts.mk.inj empty
    rw [counts_observe]
    simp only [counts, packets, bytes, attrPackets, attrBytes, Nat.zero_add]
  have learnt : ∀ neg : NegotiatedMedia, counts ({ s with codec := neg.codecForPt header.payloadType
      }.applyClockRate (neg.clockRateForPt header.payloadType)) = ⟨0, 0, 0, 0⟩ := fun neg =>
    (counts_applyClockRate _ _).trans fresh
  unfold openStream
  cases neg with
  | none => exact clocked _ fresh
  | some neg => exact clocked _ (learnt neg)

theorem accepts_insert {reg : Registry} {key : StreamKey} (absent : reg.streams.lookup key = none)
    {s : RtpStream} {len : Nat} (opened : counts s = ⟨1, len, 0, 0⟩) :
    Accepts len reg { reg with streams := reg.streams.insert key s } := by
  obtain ⟨packets, bytes, attrPackets, attrBytes⟩ := Counts.mk.inj opened
  constructor
  · intro _ m _
    have inserted := FiniteMap.total_insert m.pending key s reg.streams
    have pending : m.pending s = m.weight len := by
      cases m <;> simp only [Meter.pending, Meter.weight, packets, bytes, attrPackets, attrBytes] <;> rfl
    rw [absent, pending] at inserted
    simp only [Option.map_none, Option.getD_none] at inserted
    simp only [IpTraffic.held]
    omega
  · intro sound k t listed
    rcases eq_or_ne k key with rfl | other
    · rw [AList.lookup_insert] at listed
      obtain rfl := Option.some.inj listed
      rw [opened]
      exact ⟨Nat.zero_le 1, Nat.zero_le len⟩
    · exact sound k t (by rwa [AList.lookup_insert_ne other] at listed)

theorem accepts_openRtp {c : Correlator} {flow : Flow5Tuple} {header : RtpHeader}
    (absent : c.reg.streams.lookup { flow, ssrc := header.ssrc } = none) (ts : UInt64) (len : Nat)
    (encap : Encap) (callId : String) :
    Accepts len c.reg (c.openRtp ts flow header len encap callId).reg := by
  have fresh : counts ((c.reg.streams.lookup { flow, ssrc := header.ssrc }).getD
      (.new flow header.ssrc callId)) = ⟨0, 0, 0, 0⟩ := by
    rw [absent]
    rfl
  have inserted := accepts_insert absent (counts_openStream fresh
    ((c.reg.calls.lookup callId).map Call.negotiated) (c.turn.legOf flow) encap
    ((c.reg.callStreamKeys callId).any fun k => k.flow == flow.reverse) ts header len)
  exact inserted.then_keeps (settles_keeps.openRtp c ts flow header len encap callId)

/-- The payload length of an input that is taken into a stream. -/
def accepted (c : Correlator) : Op → Option Nat
  | .rtp _ flow header len _ =>
    if (c.reg.streams.lookup { flow, ssrc := header.ssrc }).isSome ||
      (callOfFlow c.reg flow).isSome then some len else none
  | _ => none

/-! ## Steps and runs -/

/-- What a step adds to a meter. -/
def gain (m : Meter) (c : Correlator) (input : Iteration × Op) : Nat :=
  ((accepted c input.2).map m.weight).getD 0

/-- What a step takes away. -/
def loss (m : Meter) (c : Correlator) (input : Iteration × Op) : Nat :=
  tailsPending (evicted c input) m

/-- A step to these tables adds its gain to every meter it fits and takes its loss away. -/
def Conserves (c : Correlator) (input : Iteration × Op) (after : Registry) : Prop :=
  Every Counts.Sound after ∧ ∀ m, held m c.reg + gain m c input < 2 ^ 64 →
    held m after + loss m c input = held m c.reg + gain m c input

section Step

variable {c : Correlator} {input : Iteration × Op} {after : Registry}

theorem conserves_balanced (sound : Every Counts.Sound c.reg) (moved : Balanced (tailsPending (evicted c input)) c.reg after)
    (quiet : accepted c input.2 = none) : Conserves c input after := by
  refine ⟨moved.every _ sound_marked sound, fun m fits => ?_⟩
  have kept := moved.held m (Nat.lt_of_add_right_lt fits)
  simp only [loss, gain, quiet, Option.map_none, Option.getD_none]
  omega

theorem conserves_kept (sound : Every Counts.Sound c.reg) (kept : Keeps c.reg after) (stays : evicted c input = [])
    (quiet : accepted c input.2 = none) : Conserves c input after := by
  refine conserves_balanced sound ?_ quiet
  rw [stays]
  exact kept

theorem conserves_taken {len : Nat} (sound : Every Counts.Sound c.reg) (moved : Accepts len c.reg after)
    (stays : evicted c input = []) (took : accepted c input.2 = some len) : Conserves c input after := by
  refine ⟨moved.sound sound, fun m fits => ?_⟩
  have taken : gain m c input = m.weight len := by
    rw [gain, took, Option.map_some, Option.getD_some]
  rw [taken] at fits ⊢
  rw [loss, stays]
  exact moved.held sound m fits

theorem conserves_ingestRtp (iter : Iteration) (ts : UInt64) (flow : Flow5Tuple) (header : RtpHeader) (len : Nat)
    (encap : Encap) (sound : Every Counts.Sound c.reg) :
    Conserves c (iter, .rtp ts flow header len encap) (c.ingestRtp ts flow header len encap).reg := by
  cases tracked : c.reg.streams.lookup { flow, ssrc := header.ssrc } with
  | some s =>
    have same : c.ingestRtp ts flow header len encap =
        c.observeExistingRtp ts header len { flow, ssrc := header.ssrc } s := by
      simp only [ingestRtp, tracked]
    rw [same]
    refine conserves_taken sound (accepts_existing tracked ts header len) rfl ?_
    simp only [accepted, tracked, Option.isSome_some, Bool.true_or, if_true]
  | none =>
    cases owner : callOfFlow c.reg flow with
    | some callId =>
      have same : c.ingestRtp ts flow header len encap = c.openRtp ts flow header len encap callId := by
        simp only [ingestRtp, tracked, owner]
      rw [same]
      refine conserves_taken sound (accepts_openRtp tracked ts len encap callId) rfl ?_
      simp only [accepted, owner, Option.isSome_some, Bool.or_true, if_true]
    | none =>
      have same : c.ingestRtp ts flow header len encap = c := by
        simp only [ingestRtp, tracked, owner]
      rw [same]
      refine conserves_kept sound (.refl c.reg) rfl ?_
      simp only [accepted, tracked, owner, Option.isSome_none, Bool.or_self, Bool.false_eq_true, if_false]

end Step

theorem step_conserves (c : Correlator) (input : Iteration × Op) (spared : Spares c input)
    (sound : Every Counts.Sound c.reg) :
    Every Counts.Sound (step c input).reg ∧
      ∀ m, held m c.reg + gain m c input < 2 ^ 64 →
        held m (step c input).reg + loss m c input = held m c.reg + gain m c input := by
  obtain ⟨iter, op⟩ := input
  change Conserves c (iter, op) (step c (iter, op)).reg
  cases op with
  | sip msg => exact conserves_balanced sound (balanced_ingestSip iter c msg) rfl
  | terminal id => exact conserves_balanced sound (balanced_onCallTerminal iter c id) rfl
  | flush ts => exact conserves_balanced sound (balanced_flush iter c ts spared) rfl
  | rtp ts flow header len encap => exact conserves_ingestRtp iter ts flow header len encap sound
  | rtcp ts flow msg => exact conserves_kept sound (settles_keeps.ingestRtcp c ts flow msg) rfl rfl
  | clear => exact spared.elim
  | search q => exact conserves_kept sound (settles_keeps.setSearchHint iter c.reg q) rfl rfl
  | touchTime ts => exact conserves_kept sound (.of_same rfl rfl) rfl rfl
  | focus hint => exact conserves_kept sound (.of_same rfl rfl) rfl rfl
  | takeEvents => exact conserves_kept sound (.of_same rfl rfl) rfl rfl
  | disableEvlogEmit => exact conserves_kept sound (.of_same rfl rfl) rfl rfl
  | enableSessionStats => exact conserves_kept sound (.of_same rfl rfl) rfl rfl

/-! ## An attribution tick -/

/-- Nothing of a stream is left to attribute. -/
def Settled (n : Counts) : Prop := n.attributedPackets = n.packets ∧ n.attributedBytes = n.bytes

theorem settled_marked : Attributed Settled := fun _ => ⟨rfl, rfl⟩

theorem pending_of_settled {s : RtpStream} (settled : Settled (counts s)) (m : Meter) :
    m.pending s = 0 := by
  have packets : s.ipattrPkts = s.acc.packetCount := settled.1
  have bytes : s.ipattrBytes = s.bytes := settled.2
  cases m <;> simp only [Meter.pending, packets, bytes, Nat.sub_self]

theorem every_attributed (iter : Iteration) (c : Correlator) :
    Every Settled (c.attributeIpStats iter).reg := by
  have marked : ∀ s, Settled (counts (Registry.markAttributed s)) := settled_marked
  exact marked_attributeIpStats (P := fun s => Settled (counts s)) marked iter c

/-- A flush whose attribution ticker is due leaves nothing pending. -/
theorem settled_flush (iter : Iteration) (c : Correlator) (ts : UInt64)
    (spared : Spares c (iter, .flush ts)) (due : tickerDue c.lastIpattrUs ts 1000000 = true)
    (m : Meter) : FiniteMap.total m.pending (c.maybePeriodicFlush iter ts).reg.streams = 0 := by
  have ticked : c.ipattrTick iter ts = { c with lastIpattrUs := some ts }.attributeIpStats iter := by
    unfold ipattrTick
    simp only [due, Bool.or_true, if_true]
  have attributed := every_attributed iter { c with lastIpattrUs := some ts }
  rw [← ticked] at attributed
  have settled := (balanced_afterTick iter c ts spared).every _ settled_marked attributed
  exact FiniteMap.total_of_zero fun k s present => pending_of_settled (settled k s present) m

/-- Nothing a step evicts at the stream cap is pending. -/
def EvictsAttributed (m : Meter) (c : Correlator) (input : Iteration × Op) : Prop :=
  ∀ s ∈ evicted c input, m.pending s = 0

theorem loss_eq_zero (m : Meter) (c : Correlator) (input : Iteration × Op) :
    loss m c input = 0 ↔ EvictsAttributed m c input := by
  unfold loss tailsPending EvictsAttributed
  rw [List.sum_eq_zero_iff_forall_eq_nat, List.forall_mem_map]

/-- For every run without a clear and without an idle address to prune, right
after a flush whose attribution ticker was due: the rows of a meter add up to
what was accepted into streams exactly where every stream the cap has evicted
had nothing left to attribute. What was accepted fits into 64 bits. -/
theorem conserved_iff (iter : Iteration) (config : Config) (source : String)
    (inputs : List (Iteration × Op)) (pass : Iteration) (ts : UInt64) (m : Meter)
    (spared : Run.Along step Spares (.new iter config source) (inputs ++ [(pass, .flush ts)]))
    (due : tickerDue ((Correlator.new iter config source).run inputs).lastIpattrUs ts 1000000 = true)
    (fits : Run.total step (gain m) (.new iter config source) (inputs ++ [(pass, .flush ts)]) < 2 ^ 64) :
    FiniteMap.total m.row
        ((Correlator.new iter config source).run (inputs ++ [(pass, .flush ts)])).reg.ipstats =
        Run.total step (gain m) (.new iter config source) (inputs ++ [(pass, .flush ts)]) ↔
      Run.Along step (EvictsAttributed m) (.new iter config source)
        (inputs ++ [(pass, .flush ts)]) := by
  have start : Every Counts.Sound (Correlator.new iter config source).reg := by
    intro k s present
    exact nomatch present
  have empty : held m (Correlator.new iter config source).reg = 0 := rfl
  have balance := Run.total_balance (P := fun c : Correlator => Every Counts.Sound c.reg)
    (fun c => held m c.reg) (gain m) (loss m)
    (fun c input spared sound => (step_conserves c input spared sound).1)
    (fun c input spared sound => (step_conserves c input spared sound).2 m) spared start
    (by rwa [empty, Nat.zero_add])
  have last := ((Run.along_append _ inputs _).mp spared).2.1
  have settled := settled_flush pass ((Correlator.new iter config source).run inputs) ts last due m
  have tail : FiniteMap.total m.pending
      ((Correlator.new iter config source).run (inputs ++ [(pass, .flush ts)])).reg.streams = 0 := by
    rw [run, List.foldl_append]
    exact settled
  rw [← Run.along_congr (loss_eq_zero m), ← Run.total_eq_zero]
  change held m ((Correlator.new iter config source).run (inputs ++ [(pass, .flush ts)])).reg + _ =
    held m (Correlator.new iter config source).reg + _ at balance
  rw [empty, IpTraffic.held, tail] at balance
  omega

/-! ## One stream too many -/

open CallIsolation (offer mediaFlow)

/-- A packet of the call from `10.0.0.1`. -/
def packet (ts : UInt64) (ssrc : UInt32) : Iteration × Op :=
  (.stored, .rtp ts (mediaFlow 1) ⟨2, 0, 1, 160, ssrc⟩ 160 .direct)

/-- Two streams of one call, first seen after the ticker of 4.5 s; the pass of
5 s evicts, the ticker of 6 s attributes. -/
def twoStreams : List (Iteration × Op) :=
  [(.stored, .sip (offer "a" "1")), (.stored, .flush 0), (.stored, .flush 4500000),
    packet 4600000 1, packet 4700000 2, (.stored, .flush 5000000)]

/-- At a stream cap of one, the packet of the older stream is attributed to nobody. -/
theorem evicted_tail_lost :
    Run.Along step Spares (.new .stored { maxStreams := 1 } "eth0")
        (twoStreams ++ [(.stored, .flush 6000000)]) ∧
      tickerDue ((Correlator.new .stored { maxStreams := 1 } "eth0").run twoStreams).lastIpattrUs
        6000000 1000000 = true ∧
      FiniteMap.total (Meter.row .txPkts) ((Correlator.new .stored { maxStreams := 1 } "eth0").run
        (twoStreams ++ [(.stored, .flush 6000000)])).reg.ipstats = 1 ∧
      Run.total step (gain .txPkts) (.new .stored { maxStreams := 1 } "eth0")
        (twoStreams ++ [(.stored, .flush 6000000)]) = 2 := by
  refine ⟨⟨trivial, ?_, ?_, trivial, trivial, ?_, ?_, trivial⟩, ?_, ?_, ?_⟩
  · change _ = true → _
    decide +kernel
  · change _ = true → _
    decide +kernel
  · change _ = true → _
    decide +kernel
  · change _ = true → _
    decide +kernel
  · decide +kernel
  · decide +kernel
  · decide +kernel

/-- With room for both, every packet and byte is attributed. -/
theorem conserved_two_streams :
    FiniteMap.total (Meter.row .rxBytes) ((Correlator.new .stored {} "eth0").run
        (twoStreams ++ [(.stored, .flush 6000000)])).reg.ipstats =
      Run.total step (gain .rxBytes) (.new .stored {} "eth0")
        (twoStreams ++ [(.stored, .flush 6000000)]) := by
  refine (conserved_iff .stored {} "eth0" twoStreams .stored 6000000 .rxBytes ?_ (by decide +kernel)
    (by decide +kernel)).mpr ?_
  · refine ⟨trivial, ?_, ?_, trivial, trivial, ?_, ?_, trivial⟩
    all_goals
      change _ = true → _
      decide +kernel
  · refine ⟨?_, ?_, ?_, ?_, ?_, ?_, ?_, trivial⟩
    all_goals
      change ∀ s ∈ evicted _ _, Meter.pending .rxBytes s = 0
      decide +kernel

end Sipmon.Guarantees.IpConservation
