import Sipmon.Guarantees.StoredText

/-!
# No step reads the stored texts back

Media, the periodic pass and the settings respect `plain`. A message moves two
alike correlators alike also when they get different texts of it, as long as
both texts teach the same media and give the same reason for a BYE.
-/
namespace Sipmon.Guarantees.StoredText
open Source Lib Lib.Run
open Lib.FiniteMap (mapValues)
open Lib.ByteReader (Bytes)

/-! ## A message -/

theorem plain_pushEv (c : Correlator) (ev : Evlog.Event) : plain (c.pushEv ev) = plain c := rfl

theorem observeSip_respects (msg : SipMsg) : Respects plain fun c => c.observeSip msg := by
  refine respects_plain fun c => ?_
  unfold Correlator.observeSip
  dsimp only
  split <;> simp only [plain, plainReg, plain_calls]

/-- The text of a message is not looked at before the message is stored. -/
theorem observeSip_withRaw (c : Correlator) (msg : SipMsg) (raw : Bytes) :
    c.observeSip (withRaw msg raw) = c.observeSip msg := rfl

theorem storeMessage_alike {a b : Correlator} (same : plain a = plain b) {msg : SipMsg} {raw : Bytes}
    (reason : SameReason msg raw) (learned : Option NegotiatedMedia) :
    plain (a.storeMessage (withRaw msg raw) learned) = plain (b.storeMessage msg learned) := by
  have created := getOrCreateCall_respects msg.callId _ _ (sameReg same)
  exact plain_reg same (plainReg_updateCall created msg.callId fun x y alike =>
    plain_receive alike reason learned)

theorem applySdpClocks_respects (id : String) : Respects plain fun c => c.applySdpClocks id := by
  intro a b same
  have found := sameCall same id
  have keys := congrArg (fun c : Correlator => c.reg.callStreamKeys id) same
  change a.reg.callStreamKeys id = b.reg.callStreamKeys id at keys
  unfold Correlator.applySdpClocks
  dsimp only
  rw [keys]
  cases left : a.reg.calls.lookup id with
  | none =>
    rw [left] at found
    rw [Option.map_eq_none_iff.mp found.symm]
    exact same
  | some x =>
    rw [left] at found
    obtain ⟨y, right, alike⟩ := Option.map_eq_some_iff.mp found.symm
    have negotiated := congrArg Call.negotiated alike
    change y.negotiated = x.negotiated at negotiated
    rw [right]
    dsimp only
    rw [negotiated]
    exact reg_respects (Respects.foldl (fun key => updateStream_respects key _) _) _ _ same

theorem learnSdp_respects (id : String) (learned : Option NegotiatedMedia) :
    Respects plain fun c => c.learnSdp id learned := by
  cases learned with
  | none => exact fun a b same => same
  | some n =>
    have registered : Respects plain fun c : Correlator => { c with reg := { c.reg with
        endpointCall := n.endpoints.foldl (fun m ep => m.insert ep id) c.reg.endpointCall } } :=
      respects_plain fun c => by simp only [plain, plainReg, plain_calls]
    exact (applySdpClocks_respects id).comp registered

/-- The call of `id` is the first of the table. -/
def Front (id : String) (c : Correlator) : Prop := c.reg.calls.keys.head? = some id

theorem keys_modify {V : Type} {k : String} {m : FiniteMap String V} (member : k ∈ m) (f : V → V) :
    (m.modify k f).keys.head? = some k := by
  obtain ⟨v, present⟩ := Option.isSome_iff_exists.mp (AList.lookup_isSome.mpr member)
  unfold FiniteMap.modify
  rw [present]
  dsimp only
  rw [AList.keys_insert]
  rfl

theorem front_storeMessage (c : Correlator) (msg : SipMsg) (learned : Option NegotiatedMedia) :
    Front msg.callId (c.storeMessage msg learned) := by
  refine keys_modify ?_ _
  unfold Registry.getOrCreateCall
  split
  · assumption
  · exact (AList.mem_insert c.reg.calls).mpr (.inl rfl)

theorem calls_applySdpClocks (c : Correlator) (id : String) :
    (c.applySdpClocks id).reg.calls = c.reg.calls := by
  unfold Correlator.applySdpClocks
  split
  · dsimp only
    generalize c.reg.callStreamKeys id = keys
    generalize c.reg = reg
    induction keys generalizing reg with
    | nil => rfl
    | cons key rest ih => exact ih (reg.updateStream key _)
  · rfl

theorem calls_learnSdp (c : Correlator) (id : String) (learned : Option NegotiatedMedia) :
    (c.learnSdp id learned).reg.calls = c.reg.calls := by
  cases learned with
  | none => rfl
  | some n => exact calls_applySdpClocks _ id

/-- A diagnostic of the call in front moves nothing. -/
theorem plain_addDiagnostic_front {c : Correlator} {d : Diagnostic} (front : Front d.callId c) :
    plain (c.addDiagnostic d) = plain c ∧ Front d.callId (c.addDiagnostic d) := by
  have member : d.callId ∈ c.reg.calls := AList.mem_keys.mpr (List.mem_of_head? front)
  by_cases below : d.severity.rank < c.minSeverity.rank
  · have skipped : c.addDiagnostic d = c := by
      unfold Correlator.addDiagnostic
      exact if_pos below
    rw [skipped]
    exact ⟨rfl, front⟩
  · rw [plain_reported c below]
    refine ⟨plain_reg rfl (plainReg_calls rfl (FiniteMap.mapValues_modify_front ?_ front)), ?_⟩
    · exact plain_countDiagnostic d.severity
    · unfold Correlator.addDiagnostic
      rw [if_neg below]
      exact keys_modify member _

theorem plain_addDiagnostics_front {id : String} {ds : List Diagnostic}
    (own : ∀ d ∈ ds, d.callId = id) {c : Correlator} (front : Front id c) :
    plain (c.addDiagnostics ds) = plain c := by
  induction ds generalizing c with
  | nil => rfl
  | cons d rest ih =>
    obtain rfl := own d List.mem_cons_self
    obtain ⟨same, kept⟩ := plain_addDiagnostic_front front
    exact (ih (fun e member => own e (List.mem_cons_of_mem d member)) kept).trans same

/-- Both texts of a message teach the same media. -/
def SameMedia (msg : SipMsg) (raw : Bytes) : Prop :=
  (Correlator.sdpOf (withRaw msg raw)).map NegotiatedMedia.ofSession =
    (Correlator.sdpOf msg).map NegotiatedMedia.ofSession

/-- What a message does before its call is looked at for its end. -/
theorem plain_learned {a b : Correlator} (same : plain a = plain b) {msg : SipMsg} {raw : Bytes}
    (reason : SameReason msg raw) (learned : Option NegotiatedMedia) (ds ds' : List Diagnostic)
    (own : ∀ d ∈ ds, d.callId = msg.callId) (own' : ∀ d ∈ ds', d.callId = msg.callId)
    (ev ev' : Evlog.Event) :
    plain ((((a.storeMessage (withRaw msg raw) learned).learnSdp msg.callId learned).pushEv ev).addDiagnostics
        ds) =
      plain ((((b.storeMessage msg learned).learnSdp msg.callId learned).pushEv ev').addDiagnostics ds') := by
  have front : ∀ (c : Correlator) (m : SipMsg) (e : Evlog.Event), m.callId = msg.callId →
      Front msg.callId (((c.storeMessage m learned).learnSdp msg.callId learned).pushEv e) := by
    intro c m e id
    have stored := front_storeMessage c m learned
    have kept := calls_learnSdp (c.storeMessage m learned) msg.callId learned
    rw [id] at stored
    unfold Front at stored ⊢
    rw [← kept] at stored
    exact stored
  rw [plain_addDiagnostics_front own (front a (withRaw msg raw) ev rfl),
    plain_addDiagnostics_front own' (front b msg ev' rfl), plain_pushEv, plain_pushEv]
  exact learnSdp_respects msg.callId learned _ _ (storeMessage_alike same reason learned)

theorem ingestSip_alike (iter : Iteration) {a b : Correlator} (same : plain a = plain b)
    {msg : SipMsg} {raw : Bytes} (reason : SameReason msg raw) (media : SameMedia msg raw) :
    plain (a.ingestSip iter (withRaw msg raw)) = plain (b.ingestSip iter msg) := by
  have observed : plain (a.observeSip (withRaw msg raw)) = plain (b.observeSip msg) := by
    rw [observeSip_withRaw]
    exact observeSip_respects msg _ _ same
  have own : ∀ (c : Correlator) (m : SipMsg), ∀ d ∈ c.messageDiagnostics m, d.callId = m.callId :=
    fun c m => CallShare.Share.messageDiagnostics_callId (CallShare.share m.callId c) m
  unfold Correlator.ingestSip
  dsimp only
  rw [media]
  exact latchTerminal_respects iter msg.callId _ _
    (plain_learned observed reason _ _ _ (own _ (withRaw msg raw)) (own _ msg) _ _)

theorem ingestSip_respects (iter : Iteration) (msg : SipMsg) :
    Respects plain fun c => c.ingestSip iter msg := by
  intro a b same
  have reason : SameReason msg msg.raw := fun _ => rfl
  have media : SameMedia msg msg.raw := rfl
  exact ingestSip_alike iter same reason media

/-! ## RTP -/

theorem plain_countRtp (ts : UInt64) {x y : Call} (same : plainCall x = plainCall y) :
    plainCall (Correlator.countRtp ts x) = plainCall (Correlator.countRtp ts y) :=
  congrArg (Correlator.countRtp ts) same

theorem plain_noteMedia (flow : Flow5Tuple) (relayed : Bool) {x y : Call}
    (same : plainCall x = plainCall y) :
    plainCall (Correlator.noteMedia flow relayed x) = plainCall (Correlator.noteMedia flow relayed y) :=
  congrArg (Correlator.noteMedia flow relayed) same

theorem observeExistingRtp_respects (ts : UInt64) (header : RtpHeader) (len : Nat) (key : StreamKey)
    (stream : RtpStream) : Respects plain fun c => c.observeExistingRtp ts header len key stream := by
  intro a b same
  have observed := updateStream_respects key (·.observe ts header len) _ _ (sameReg same)
  have counted := plainReg_updateCall observed stream.callId fun _ _ => plain_countRtp ts
  exact addDiagnostics_respects _ _ _ (plain_reg same counted)

theorem insertStream_respects (id : String) (key : StreamKey) (stream : RtpStream) :
    Respects plainReg fun reg : Registry =>
      { reg with streams := reg.streams.insert key stream }.noteStream id key :=
  respects_plainReg fun reg => by simp only [plainReg, Registry.noteStream, plain_calls]

theorem openRtp_respects (ts : UInt64) (flow : Flow5Tuple) (header : RtpHeader) (len : Nat)
    (encap : Encap) (id : String) :
    Respects plain fun c => c.openRtp ts flow header len encap id := by
  refine respects_plain fun c => ?_
  have neg : ((plain c).reg.calls.lookup id).map Call.negotiated =
      (c.reg.calls.lookup id).map Call.negotiated := by
    change ((mapValues plainCall c.reg.calls).lookup id).map Call.negotiated = _
    rw [FiniteMap.lookup_mapValues, Option.map_map]
    rfl
  have keys : (plain c).reg.callStreamKeys id = c.reg.callStreamKeys id := rfl
  have tracked : (plain c).reg.streams = c.reg.streams := rfl
  have leg : (plain c).turn = c.turn := rfl
  have credited : ∀ reverseExists : Bool, Respects plain fun c : Correlator => { c with
      reg := (if reverseExists then
          c.reg.updateStream { flow := flow.reverse, ssrc := header.ssrc } fun s =>
            { s with reverseSeen := true }
        else c.reg).updateCall id (Correlator.countRtp ts) } := by
    intro reverseExists a b same
    refine plain_reg same (plainReg_updateCall ?_ id fun _ _ => plain_countRtp ts)
    cases reverseExists
    · exact sameReg same
    · exact updateStream_respects _ _ _ _ (sameReg same)
  unfold Correlator.openRtp
  dsimp only
  rw [neg, keys, tracked, leg]
  have inserted := insertStream_respects id { flow, ssrc := header.ssrc }
  have noted := fun stream relayed => plain_reg (plain_plain c)
    (plainReg_updateCall (inserted stream _ _ (plainReg_plainReg c.reg)) id fun _ _ =>
      plain_noteMedia flow relayed)
  exact credited _ _ _ (addDiagnostics_respects _ _ _ (noted _ _))

theorem ingestRtp_respects (ts : UInt64) (flow : Flow5Tuple) (header : RtpHeader) (len : Nat)
    (encap : Encap) : Respects plain fun c => c.ingestRtp ts flow header len encap := by
  refine respects_plain fun c => ?_
  have tracked : (plain c).reg.streams = c.reg.streams := rfl
  have owner : Correlator.callOfFlow (plain c).reg flow = Correlator.callOfFlow c.reg flow := rfl
  unfold Correlator.ingestRtp
  dsimp only
  rw [tracked, owner]
  split
  · exact observeExistingRtp_respects _ _ _ _ _ _ _ (plain_plain c)
  · split
    · exact openRtp_respects _ _ _ _ _ _ _ _ (plain_plain c)
    · exact plain_plain c

/-! ## RTCP -/

theorem attachSample_respects (ts : UInt64) (sample : Correlator.RtcpSample) :
    Respects plain fun c => c.attachSample ts sample := by
  refine respects_plain fun c => ?_
  have timed := reg_respects (Respects.foldl (fun key => updateStream_respects key
    (·.addTiming sample.rttMs sample.onewayMs)) (Correlator.ssrcKeys c.reg sample.ssrc)) _ _
    (plain_plain c)
  have keys : Correlator.ssrcKeys (plain c).reg = Correlator.ssrcKeys c.reg := rfl
  have tracked : (plain c).reg.streams = c.reg.streams := rfl
  unfold Correlator.attachSample
  dsimp only
  rw [keys, tracked]
  split
  · exact timed
  · exact timed

theorem plain_countRtcp (ts : UInt64) {x y : Call} (same : plainCall x = plainCall y) :
    plainCall (Correlator.countRtcp ts x) = plainCall (Correlator.countRtcp ts y) :=
  congrArg (Correlator.countRtcp ts) same

theorem ingestRtcp_respects (ts : UInt64) (flow : Flow5Tuple) (msg : RtcpMessage) :
    Respects plain fun c => c.ingestRtcp ts flow msg := by
  refine respects_plain fun c => ?_
  have samples := Respects.foldl (attachSample_respects ts) (Correlator.rtcpSamples ts msg)
  have owner : Correlator.callOfSsrc (plain c).reg = Correlator.callOfSsrc c.reg := rfl
  unfold Correlator.ingestRtcp
  dsimp only
  rw [owner]
  split
  · next id _ =>
    have counted := plainReg_updateCall (plainReg_plainReg c.reg) id fun _ _ => plain_countRtcp ts
    exact samples _ _ (plain_reg (plain_plain c) counted)
  · exact samples _ _ (plain_plain c)

/-! ## The periodic pass -/

theorem attributeIpStats_respects (iter : Iteration) :
    Respects plain fun c => c.attributeIpStats iter :=
  respects_plain fun c => reg_respects (Respects.foldl flushStreamIpattr_respects
    (iter.order c.reg.streams.keys)) _ _ (plain_plain c)

theorem ipattrTick_respects (iter : Iteration) (ts : UInt64) :
    Respects plain fun c => c.ipattrTick iter ts := by
  refine respects_plain fun c => ?_
  have last : (plain c).lastIpattrUs = c.lastIpattrUs := rfl
  have started : plain { plain c with lastIpattrUs := some ts } = plain { c with lastIpattrUs := some ts } :=
    congrArg (fun c : Correlator => { c with lastIpattrUs := some ts }) (plain_plain c)
  unfold Correlator.ipattrTick
  dsimp only
  rw [last]
  split
  · refine attributeIpStats_respects iter _ _ ?_
    split
    · exact started
    · exact plain_plain c
  · split
    · exact started
    · exact plain_plain c

theorem snapStream_respects (ts : UInt64) (key : StreamKey) :
    Respects plain fun c => c.snapStream ts key := by
  have silent : ∀ c : Correlator, plain (c.snapStream ts key) = plain (if c.keepTerminated then
      { c with reg := c.reg.updateStream key (·.sample ts) } else c) := by
    intro c
    unfold Correlator.snapStream
    dsimp only
    generalize (if c.keepTerminated = true then _ else c) = sampled
    repeat' split
    all_goals rfl
  intro a b same
  have keep := congrArg Correlator.keepTerminated same
  change a.keepTerminated = b.keepTerminated at keep
  dsimp only
  rw [silent, silent]
  by_cases kept : a.keepTerminated = true
  · rw [if_pos kept, if_pos (keep ▸ kept)]
    exact reg_respects (updateStream_respects key (·.sample ts)) _ _ same
  · rw [if_neg kept, if_neg (keep ▸ kept)]
    exact same

theorem snapStreams_respects (iter : Iteration) (ts : UInt64) :
    Respects plain fun c => c.snapStreams iter ts :=
  respects_plain fun c =>
    Respects.foldl (snapStream_respects ts) (iter.order c.reg.streams.keys) _ _ (plain_plain c)

theorem evictPass_respects {iter : Iteration} (natural : iter.Natural) (ts : UInt64) :
    Respects plain fun c => c.evictPass iter ts := by
  refine respects_plain fun c => ?_
  have refreshed : plainReg (if (plain c).reg.searchHint.isSome then
        (plain c).reg.refreshSearchMatches iter else (plain c).reg) =
      plainReg (if c.reg.searchHint.isSome then c.reg.refreshSearchMatches iter else c.reg) := by
    have hint : (plain c).reg.searchHint = c.reg.searchHint := rfl
    rw [hint]
    split
    · exact refreshSearchMatches_respects natural _ _ (plainReg_plainReg c.reg)
    · exact plainReg_plainReg c.reg
  have unstale := evictStale_respects natural c.callTtlSecs ts _ _ refreshed
  exact plain_reg (plain_plain c) (evictIfNeeded_respects iter _ _ unstale)

theorem plain_pruneIdleIps (c : Correlator) (ts : UInt64) : plain (c.pruneIdleIps ts) = plain c := rfl

/-- The tables of other components, pruned without a look at the calls. -/
theorem pruned_respects (iter : Iteration) (ts : UInt64) :
    Respects plain fun c : Correlator => { c with
      reg := c.reg.pruneHeatmap, turn := c.turn.prune iter
      tcpReasm := c.tcpReasm.prune ts TcpReassembler.idleUs } := by
  refine respects_plain fun c => ?_
  have heatmap : ∀ reg : Registry, plainReg reg.pruneHeatmap = plainReg reg := by
    intro reg
    unfold Registry.pruneHeatmap
    split <;> rfl
  simp only [plain, heatmap, plainReg_plainReg]

theorem maybePeriodicFlush_respects {iter : Iteration} (natural : iter.Natural) (ts : UInt64) :
    Respects plain fun c => c.maybePeriodicFlush iter ts := by
  have pass : Respects plain fun c => c.flushPass iter ts := by
    have snapped := (snapStreams_respects iter ts).comp (pruned_respects iter ts)
    have evicted := pruneRemovedBookkeeping_respects.comp ((evictPass_respects natural ts).comp snapped)
    exact (respects_of_blind fun c => plain_pruneIdleIps c ts).comp evicted
  intro a b same
  have ticked := ipattrTick_respects iter ts _ _ same
  unfold Correlator.maybePeriodicFlush
  dsimp only at ticked ⊢
  generalize a.ipattrTick iter ts = a at ticked ⊢
  generalize b.ipattrTick iter ts = b at ticked ⊢
  have last := congrArg Correlator.lastFlushUs ticked
  change a.lastFlushUs = b.lastFlushUs at last
  have started : plain { a with lastFlushUs := some ts } = plain { b with lastFlushUs := some ts } :=
    congrArg (fun c : Correlator => { c with lastFlushUs := some ts }) ticked
  rw [last]
  split
  · refine pass _ _ ?_
    split
    · exact started
    · exact ticked
  · split
    · exact started
    · exact ticked

/-! ## Every step -/

theorem setSearch_respects {iter : Iteration} (natural : iter.Natural) (q : Option String) :
    Respects plain fun c => c.setSearch iter q := by
  refine respects_plain fun c => plain_reg (plain_plain c) ?_
  have hint : (plain c).reg.searchHint = c.reg.searchHint := rfl
  unfold Registry.setSearchHint
  dsimp only
  rw [hint]
  generalize Option.filter _ _ = norm
  split
  · exact plainReg_plainReg c.reg
  · refine refreshSearchMatches_respects natural _ _ ?_
    exact congrArg (fun reg : Registry => { reg with searchHint := norm }) (plainReg_plainReg c.reg)

theorem clear_respects : Respects plain fun c : Correlator => c.clear :=
  respects_plain fun c => by
    simp only [Correlator.clear, Registry.clear, plain, plainReg]

theorem step_respects {input : Iteration × Correlator.Op} (natural : input.1.Natural) :
    Respects plain fun c => c.step input := by
  obtain ⟨iter, op⟩ := input
  cases op with
  | sip msg => exact ingestSip_respects iter msg
  | rtp ts flow header len encap => exact ingestRtp_respects ts flow header len encap
  | rtcp ts flow msg => exact ingestRtcp_respects ts flow msg
  | terminal id => exact onCallTerminal_respects iter id
  | flush ts => exact maybePeriodicFlush_respects natural ts
  | search q => exact setSearch_respects natural q
  | clear => exact clear_respects
  | touchTime ts =>
    have touched : Respects plainReg fun reg => reg.touchTime ts := fun _ _ same =>
      congrArg (fun reg : Registry => reg.touchTime ts) same
    exact reg_respects touched
  | focus hint =>
    have focused : Respects plainReg fun reg : Registry => { reg with focusHint := hint } :=
      fun _ _ same => congrArg (fun reg : Registry => { reg with focusHint := hint }) same
    exact reg_respects focused
  | takeEvents => exact respects_of_blind fun _ => rfl
  | disableEvlogEmit =>
    exact fun _ _ same => congrArg (fun c : Correlator => { c with emitEvlog := false }) same
  | enableSessionStats => exact respects_of_blind fun _ => rfl

end Sipmon.Guarantees.StoredText
