import Sipmon.Guarantees.IpTraffic
import Sipmon.Guarantees.Stages
import Sipmon.Lib.Run

/-!
# Relations on streams and their addresses

A relation between registries that only attends to the streams, through a view,
and to the rows of the per-IP store passes through every stage that takes no
packet, up to the point where streams are cut at the cap.
-/
namespace Sipmon.Guarantees.StreamStages
open Source Lib Correlator Stages
open IpTraffic (cutCalls)

variable {β : Type*}

/-- The registry of a stage before it cuts streams at the cap: that of the end
where it enforces no cap. -/
def uncut (point : Option Registry) (after : Registry) : Registry := (point.map cutCalls).getD after

theorem uncut_none (after : Registry) : uncut none after = after := rfl

theorem uncut_some (reg after : Registry) : uncut (some reg) after = cutCalls reg := rfl

/-- The stream a first packet opens. -/
def opened (c : Correlator) (ts : UInt64) (flow : Flow5Tuple) (header : RtpHeader) (len : Nat)
    (encap : Encap) (callId : String) : RtpStream :=
  openStream ((c.reg.calls.lookup callId).map Call.negotiated) (c.turn.legOf flow) encap
    ((c.reg.callStreamKeys callId).any fun k => k.flow == flow.reverse) ts header len
    ((c.reg.streams.lookup { flow, ssrc := header.ssrc }).getD (.new flow header.ssrc callId))

theorem lookup_flushStreamIpattr (reg : Registry) (key k : StreamKey) :
    (reg.flushStreamIpattr key).streams.lookup k =
      if k = key then (reg.streams.lookup k).map Registry.markAttributed else reg.streams.lookup k := by
  unfold Registry.flushStreamIpattr
  cases present : reg.streams.lookup key with
  | some s => exact FiniteMap.lookup_modify k key Registry.markAttributed reg.streams
  | none =>
    dsimp only
    split
    · next same => rw [same, present]; rfl
    · rfl

/-- After an attribution pass every stream is marked. -/
theorem marked_attributeIpStats {P : RtpStream → Prop} (marked : ∀ s, P (Registry.markAttributed s))
    (iter : Iteration) (c : Correlator) (k : StreamKey) (s : RtpStream)
    (present : (c.attributeIpStats iter).reg.streams.lookup k = some s) : P s := by
  let Q := fun reg : Registry => ∀ s, reg.streams.lookup k = some s → P s
  have established : ∀ reg, Q (Registry.flushStreamIpattr reg k) := by
    intro reg s listed
    rw [lookup_flushStreamIpattr, if_pos rfl] at listed
    obtain ⟨t, _, rfl⟩ := Option.map_eq_some_iff.mp listed
    exact marked t
  have preserved : ∀ reg key, Q reg → Q (Registry.flushStreamIpattr reg key) := by
    intro reg key holds s listed
    rw [lookup_flushStreamIpattr] at listed
    split at listed
    · obtain ⟨t, _, rfl⟩ := Option.map_eq_some_iff.mp listed
      exact marked t
    · exact holds s listed
  by_cases tracked : k ∈ c.reg.streams
  · have visited : k ∈ iter.order c.reg.streams.keys :=
      (iter.perm _).mem_iff.mpr (AList.mem_keys.mp tracked)
    exact Run.after_mem established preserved visited c.reg s present
  · have absent : Q c.reg := fun s listed =>
      absurd (AList.lookup_isSome.mp (Option.isSome_of_eq_some listed)) tracked
    exact Run.invariant preserved (iter.order c.reg.streams.keys) absent s present

/-- Before the cap evicts streams, they and the rows are those it leaves. -/
theorem evictIfNeeded_cut (iter : Iteration) (reg : Registry) :
    (reg.evictIfNeeded iter).ipstats = (cutCalls reg).ipstats ∧
      ∀ k s, (reg.evictIfNeeded iter).streams.lookup k = some s →
        (cutCalls reg).streams.lookup k = some s := by
  have evicted : ∀ (keys : List StreamKey) (r : Registry),
      (keys.foldl Registry.evictStream r).ipstats = r.ipstats ∧
        ∀ k s, (keys.foldl Registry.evictStream r).streams.lookup k = some s →
          r.streams.lookup k = some s := by
    intro keys
    induction keys with
    | nil => exact fun r => ⟨rfl, fun _ _ present => present⟩
    | cons key rest ih =>
      intro r
      refine ⟨(ih (r.evictStream key)).1, fun k s present => ?_⟩
      have kept : (r.streams.erase key).lookup k = some s := (ih (r.evictStream key)).2 k s present
      rw [FiniteMap.lookup_erase_iff] at kept
      split at kept
      · cases kept
      · exact kept
  have unfolded : reg.evictIfNeeded iter =
      if (cutCalls reg).maxStreams < (cutCalls reg).streams.size then
        ((cutCalls reg).excessStreams iter).foldl Registry.evictStream (cutCalls reg)
      else cutCalls reg := rfl
  rw [unfolded]
  split
  · exact evicted _ _
  · exact ⟨rfl, fun _ _ present => present⟩

/-- A relation that attends to the streams and to the rows of the store only. -/
structure Attends (view : RtpStream → β) (R : Registry → Registry → Prop) : Prop where
  reclock : ∀ neg s, view (Correlator.reclock neg s) = view s
  sample : ∀ (s : RtpStream) ts, view (s.sample ts) = view s
  timing : ∀ (s : RtpStream) rtt oneway, view (s.addTiming rtt oneway) = view s
  reversed : ∀ s : RtpStream, view { s with reverseSeen := true } = view s
  trans : ∀ {a b c}, R a b → R b c → R a c
  kept : ∀ {reg after : Registry}, after.streams = reg.streams → after.ipstats = reg.ipstats → R reg after
  updated : ∀ (reg : Registry) key {f : RtpStream → RtpStream}, (∀ s, view (f s) = view s) →
    R reg (reg.updateStream key f)
  active : ∀ (reg : Registry) ip delta, R reg { reg with ipstats := reg.ipstats.addActive ip delta }

/-- Such a relation that streams may leave, attributed. -/
structure Settles (view : RtpStream → β) (R : Registry → Registry → Prop) : Prop
    extends Attends view R where
  dropped : ∀ (reg : Registry) key, R reg (reg.dropStream key)

namespace Attends

variable {view : RtpStream → β} {R : Registry → Registry → Prop}

theorem refl (attends : Attends view R) (reg : Registry) : R reg reg := attends.kept rfl rfl

theorem foldl {α : Type} {op : Registry → α → Registry} (attends : Attends view R)
    (each : ∀ reg a, R reg (op reg a)) (l : List α) (reg : Registry) : R reg (l.foldl op reg) := by
  induction l generalizing reg with
  | nil => exact attends.refl reg
  | cons a rest ih => exact attends.trans (each reg a) (ih (op reg a))

theorem reg_foldl {α : Type} {op : Correlator → α → Correlator} (attends : Attends view R)
    (each : ∀ c a, R c.reg (op c a).reg) (l : List α) (c : Correlator) : R c.reg (l.foldl op c).reg := by
  induction l generalizing c with
  | nil => exact attends.refl c.reg
  | cons a rest ih => exact attends.trans (each c a) (ih (op c a))

theorem respects (attends : Attends view R) : Views.Respects fun a b : Correlator => R a.reg b.reg where
  refl c := attends.refl c.reg
  trans first second := attends.trans first second
  diag c d := by
    unfold addDiagnostic
    dsimp only
    split
    · exact attends.refl _
    · exact attends.kept rfl rfl
  heatmap _ _ := attends.kept rfl rfl
  active c ip delta := attends.active c.reg ip delta

/-! ## Messages -/

theorem observeSip (attends : Attends view R) (c : Correlator) (msg : SipMsg) :
    R c.reg (c.observeSip msg).reg := by
  unfold Correlator.observeSip
  dsimp only
  generalize c.reg.sipstats.observe _ = sipstats
  have counted : R c.reg { c.reg with sipstats } := attends.kept rfl rfl
  split
  · have caller := attends.active { c.reg with sipstats } msg.flow.src.ip 1
    have callee := attends.active { c.reg with
      sipstats, ipstats := c.reg.ipstats.addActive msg.flow.src.ip 1 } msg.flow.dst.ip 1
    exact attends.trans (attends.trans counted caller) callee
  · exact counted

theorem storeMessage (attends : Attends view R) (c : Correlator) (msg : SipMsg)
    (learned : Option NegotiatedMedia) : R c.reg (c.storeMessage msg learned).reg := by
  unfold Correlator.storeMessage Registry.getOrCreateCall
  split <;> exact attends.kept rfl rfl

theorem learnSdp (attends : Attends view R) (c : Correlator) (id : String)
    (learned : Option NegotiatedMedia) : R c.reg (c.learnSdp id learned).reg := by
  have reclocked : ∀ (neg : NegotiatedMedia) (keys : List StreamKey) (reg : Registry),
      R reg (keys.foldl (fun reg key => reg.updateStream key (Correlator.reclock neg)) reg) := fun neg =>
    attends.foldl fun reg key => attends.updated reg key (attends.reclock neg)
  have registered : ∀ endpointCall, R c.reg { c.reg with endpointCall } := fun _ => attends.kept rfl rfl
  unfold Correlator.learnSdp
  split
  · unfold learnEndpoints applySdpClocks
    dsimp only
    split
    · exact attends.trans (registered _) (reclocked _ _ _)
    · exact registered _
  · exact attends.refl _

theorem received (attends : Attends view R) (c : Correlator) (msg : SipMsg) :
    R c.reg (Stages.received c msg).reg := by
  have observed := attends.observeSip c msg
  have stored := attends.storeMessage (c.observeSip msg) msg
    ((sdpOf msg).map NegotiatedMedia.ofSession)
  have learnt := attends.learnSdp ((c.observeSip msg).storeMessage msg
    ((sdpOf msg).map NegotiatedMedia.ofSession)) msg.callId ((sdpOf msg).map NegotiatedMedia.ofSession)
  have reported := attends.respects.addDiagnostics
    ((((c.observeSip msg).storeMessage msg ((sdpOf msg).map NegotiatedMedia.ofSession)).learnSdp
      msg.callId ((sdpOf msg).map NegotiatedMedia.ofSession)).pushEv (.sipMsg (sipMsgEvt msg)))
    ((c.observeSip msg).messageDiagnostics msg)
  exact attends.trans (attends.trans (attends.trans observed stored) learnt) reported

theorem reportTeardown (attends : Attends view R) (c : Correlator) (id : String) (call : Call) :
    R c.reg (c.reportTeardown id call).reg := by
  unfold Correlator.reportTeardown
  dsimp only
  generalize logged : c.reg.pushEvent _ = reg
  have streams : reg.streams = c.reg.streams := by rw [← logged]; simp only [Registry.pushEvent]
  have ipstats : reg.ipstats = c.reg.ipstats := by rw [← logged]; simp only [Registry.pushEvent]
  split <;> exact attends.kept streams ipstats

/-! ## Media reports -/

theorem attachSample (attends : Attends view R) (ts : UInt64) (c : Correlator) (sample : RtcpSample) :
    R c.reg (Correlator.attachSample ts c sample).reg := by
  have timed := attends.foldl (fun reg key =>
    attends.updated reg key fun s => attends.timing s sample.rttMs sample.onewayMs)
    (ssrcKeys c.reg sample.ssrc) c.reg
  unfold Correlator.attachSample
  dsimp only
  split <;> exact timed

theorem ingestRtcp (attends : Attends view R) (c : Correlator) (ts : UInt64) (flow : Flow5Tuple)
    (msg : RtcpMessage) : R c.reg (c.ingestRtcp ts flow msg).reg := by
  unfold Correlator.ingestRtcp
  dsimp only
  split
  · next id _ =>
    have counted : R c.reg (c.reg.updateCall id (countRtcp ts)) := attends.kept rfl rfl
    exact attends.trans counted (attends.reg_foldl (attends.attachSample ts) _
      { c with reg := c.reg.updateCall id (countRtcp ts) })
  · exact attends.reg_foldl (attends.attachSample ts) _ c

/-! ## The periodic pass -/

theorem snapStream_reg (ts : UInt64) (c : Correlator) (key : StreamKey) :
    (Correlator.snapStream ts c key).reg =
      if c.keepTerminated then c.reg.updateStream key (·.sample ts) else c.reg := by
  unfold Correlator.snapStream
  cases c.keepTerminated
  all_goals
    simp only [Bool.false_eq_true, if_false, if_true]
    split
    · split <;> rfl
    · rfl

theorem snapStream (attends : Attends view R) (ts : UInt64) (c : Correlator) (key : StreamKey) :
    R c.reg (Correlator.snapStream ts c key).reg := by
  rw [snapStream_reg]
  split
  · exact attends.updated c.reg key fun s => attends.sample s ts
  · exact attends.refl c.reg

theorem snapped (attends : Attends view R) (iter : Iteration) (c : Correlator) (ts : UInt64) :
    R (c.ipattrTick iter ts).reg (Stages.snapped iter c ts).reg := by
  have aged : ∀ reg : Registry, R reg reg.pruneHeatmap := by
    intro reg
    unfold Registry.pruneHeatmap
    split <;> exact attends.kept rfl rfl
  exact attends.trans (aged (c.ipattrTick iter ts).reg) (attends.reg_foldl (attends.snapStream ts) _
    { flushed iter c ts with
      reg := (flushed iter c ts).reg.pruneHeatmap, turn := (flushed iter c ts).turn.prune iter
      tcpReasm := (flushed iter c ts).tcpReasm.prune ts TcpReassembler.idleUs })

theorem refreshSearchMatches (attends : Attends view R) (iter : Iteration) (reg : Registry) :
    R reg (reg.refreshSearchMatches iter) := by
  unfold Registry.refreshSearchMatches
  split <;> exact attends.kept rfl rfl

theorem setSearchHint (attends : Attends view R) (iter : Iteration) (reg : Registry) (q : Option String) :
    R reg (reg.setSearchHint iter q) := by
  unfold Registry.setSearchHint
  dsimp only
  generalize Option.filter _ _ = searchHint
  have hinted : R reg { reg with searchHint } := attends.kept rfl rfl
  split
  · exact attends.refl reg
  · exact attends.trans hinted (attends.refreshSearchMatches iter { reg with searchHint })

/-! ## Packets -/

/-- What follows once a packet has reached its stream. -/
theorem observeExistingRtp (attends : Attends view R) (c : Correlator) (ts : UInt64) (header : RtpHeader)
    (len : Nat) (key : StreamKey) (s : RtpStream) :
    R (c.reg.updateStream key (·.observe ts header len)) (c.observeExistingRtp ts header len key s).reg := by
  have counted : ∀ reg : Registry, R reg (reg.updateCall s.callId (countRtp ts)) := fun _ =>
    attends.kept rfl rfl
  have reported := attends.respects.addDiagnostics
    { c with reg := (c.reg.updateStream key (·.observe ts header len)).updateCall s.callId (countRtp ts) }
    (checkPtChange ts s.callId header.ssrc header.payloadType s.lastPt).toList
  exact attends.trans (counted _) reported

/-- What follows once a stream is open. -/
theorem openRtp (attends : Attends view R) (c : Correlator) (ts : UInt64) (flow : Flow5Tuple)
    (header : RtpHeader) (len : Nat) (encap : Encap) (callId : String) :
    R { c.reg with
        streams := c.reg.streams.insert { flow, ssrc := header.ssrc }
          (opened c ts flow header len encap callId) }
      (c.openRtp ts flow header len encap callId).reg := by
  unfold Correlator.openRtp opened
  dsimp only
  generalize openStream _ _ _ _ ts header len _ = stream
  generalize openDiagnostics _ _ _ _ _ ts flow header = diags
  have listed : R { c.reg with streams := c.reg.streams.insert { flow, ssrc := header.ssrc } stream }
      ((({ c.reg with streams := c.reg.streams.insert { flow, ssrc := header.ssrc } stream }
        : Registry).noteStream callId { flow, ssrc := header.ssrc }).updateCall callId
          (noteMedia flow ((c.turn.legOf flow).isSome || encap != .direct))) := attends.kept rfl rfl
  generalize ((({ c.reg with streams := c.reg.streams.insert { flow, ssrc := header.ssrc } stream }
    : Registry).noteStream callId { flow, ssrc := header.ssrc }).updateCall callId
      (noteMedia flow ((c.turn.legOf flow).isSome || encap != .direct))) = reg at listed ⊢
  have reported := attends.respects.addDiagnostics { c with reg } diags
  have marked := attends.updated ({ c with reg }.addDiagnostics diags).reg
    { flow := flow.reverse, ssrc := header.ssrc } attends.reversed
  have counted : ∀ reg : Registry, R reg (reg.updateCall callId (countRtp ts)) := fun _ =>
    attends.kept rfl rfl
  refine attends.trans (attends.trans listed reported) ?_
  split
  · exact attends.trans marked (counted _)
  · exact counted _

end Attends

namespace Settles

variable {view : RtpStream → β} {R : Registry → Registry → Prop}

/-! ## Removals -/

theorem removeCalls (settles : Settles view R) (reg : Registry) (ids : List String) :
    R reg (reg.removeCalls ids) := by
  have dropCall : ∀ (reg : Registry) (id : String), R reg (reg.dropCall id) := by
    intro reg id
    have removed : R reg { reg with calls := reg.calls.erase id, removed := reg.removed ++ [id]
                                    streamIndex := reg.streamIndex.erase id } := settles.kept rfl rfl
    exact settles.trans removed (settles.foldl settles.dropped (reg.callStreamKeys id) _)
  exact settles.trans (settles.foldl dropCall ids reg) (settles.kept rfl rfl)

theorem cutCalls (settles : Settles view R) (reg : Registry) : R reg (cutCalls reg) := by
  unfold IpTraffic.cutCalls
  split
  · exact settles.removeCalls reg _
  · exact settles.refl reg

theorem evictStale (settles : Settles view R) (iter : Iteration) (reg : Registry)
    (ttlSecs nowUs : UInt64) : R reg (reg.evictStale iter ttlSecs nowUs) := by
  unfold Registry.evictStale
  split
  · exact settles.refl reg
  · exact settles.removeCalls reg _

/-! ## Ends of calls -/

theorem retireCall (settles : Settles view R) (iter : Iteration) (c : Correlator) (id : String) :
    R c.reg (uncut (retirePoint c id) (c.retireCall iter id).reg) := by
  unfold Correlator.retireCall retirePoint
  cases c.reg.calls.lookup id with
  | none => exact settles.refl c.reg
  | some call =>
    have reported := settles.reportTeardown c id call
    have keep := keepTerminated_reportTeardown c id call
    dsimp only
    cases call.state.terminal with
    | false => exact settles.refl c.reg
    | true =>
      rw [keep]
      cases c.keepTerminated with
      | true => exact settles.trans reported (settles.cutCalls _)
      | false => exact settles.trans reported (settles.removeCalls _ [id])

theorem onCallTerminal (settles : Settles view R) (iter : Iteration) (c : Correlator) (id : String) :
    R c.reg (uncut (terminalPoint c id) (c.onCallTerminal iter id).reg) := by
  have checked : R c.reg (c.teardownChecks id).reg := settles.respects.teardownChecks c id
  have retired := settles.retireCall iter (c.teardownChecks id) id
  have stages : c.onCallTerminal iter id =
      ((c.teardownChecks id).retireCall iter id).pruneRemovedBookkeeping := rfl
  have cleaned : ∀ r : Correlator, R r.reg r.pruneRemovedBookkeeping.reg := fun _ => settles.kept rfl rfl
  rw [stages]
  unfold terminalPoint
  cases point : retirePoint (c.teardownChecks id) id with
  | none =>
    rw [point, uncut_none] at retired
    rw [uncut_none]
    exact settles.trans (settles.trans checked retired) (cleaned _)
  | some reg =>
    rw [point, uncut_some] at retired
    rw [uncut_some]
    exact settles.trans checked retired

theorem ingestSip (settles : Settles view R) (iter : Iteration) (c : Correlator) (msg : SipMsg) :
    R c.reg (uncut (sipPoint c msg) (c.ingestSip iter msg).reg) := by
  rw [ingestSip_received]
  refine settles.trans (settles.received c msg) ?_
  unfold latchTerminal sipPoint
  dsimp only
  split
  · exact settles.onCallTerminal iter { Stages.received c msg with
      terminalDone := insert msg.callId (Stages.received c msg).terminalDone } msg.callId
  · exact settles.refl _

/-! ## The end of the periodic pass -/

theorem unstale (settles : Settles view R) (iter : Iteration) (c : Correlator) (ts : UInt64) :
    R c.reg (Stages.unstale iter c ts) := by
  unfold Stages.unstale
  split
  · exact settles.trans (settles.refreshSearchMatches iter c.reg) (settles.evictStale iter _ _ _)
  · exact settles.evictStale iter _ _ _

/-- What follows the attribution ticker in a periodic flush. -/
theorem flush (settles : Settles view R) (iter : Iteration) (c : Correlator) (ts : UInt64) :
    R (c.ipattrTick iter ts).reg (uncut (flushPoint iter c ts) (c.maybePeriodicFlush iter ts).reg) := by
  unfold flushPoint maybePeriodicFlush
  dsimp only
  by_cases due : tickerDue (c.ipattrTick iter ts).lastFlushUs ts flushPeriodUs = true
  · rw [if_pos due]
    exact settles.trans (settles.snapped iter c ts)
      (settles.trans (settles.unstale iter (Stages.snapped iter c ts) ts) (settles.cutCalls _))
  · rw [if_neg due]
    simp only [due, Bool.or_false, Bool.false_eq_true, if_false]
    split <;> exact settles.kept rfl rfl

end Settles
end Sipmon.Guarantees.StreamStages
