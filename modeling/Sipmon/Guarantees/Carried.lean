import Sipmon.Guarantees.CallTable

/-!
# Relations that steps respect

A relation between registries that holds across table changes, removals and
counters holds across everything a step does, except where a message reaches
its call, where search pins are refreshed and where the aged parts are pruned; `Tends`
has those too.
-/
namespace Sipmon.Guarantees.Carried
open Source Lib Correlator Stages Views
open CallTable (signaling signaling_countDiagnostic)

/-- What media and diagnostics do to a call: they count, and note its addresses. -/
inductive Counting : (Call → Call) → Prop where
  | diagnostic (severity : Severity) : Counting (countDiagnostic severity)
  | rtp (ts : UInt64) : Counting (countRtp ts)
  | rtcp (ts : UInt64) : Counting (countRtcp ts)
  | media (flow : Flow5Tuple) (relayed : Bool) : Counting (noteMedia flow relayed)

theorem Counting.signaling {update : Call → Call} (counting : Counting update) (call : Call) :
    signaling (update call) = signaling call := by
  cases counting with
  | diagnostic severity => exact signaling_countDiagnostic severity call
  | rtp | rtcp | media => rfl

/-- A relation respected by the tables of streams and addresses, by the removal of
calls, by counters on calls and by the logs. -/
structure Carries (R : Registry → Registry → Prop) : Prop where
  refl : ∀ reg, R reg reg
  trans : ∀ {a b c}, R a b → R b c → R a c
  tables : ∀ (reg : Registry) order streams endpointCall removed streamIndex ssrcIndex ipstats completed
      failed,
    R reg { reg with
      order, streams, endpointCall, removed, streamIndex, ssrcIndex, ipstats, completed, failed }
  erased : ∀ (reg : Registry) id, R reg { reg with calls := reg.calls.erase id }
  counted : ∀ (reg : Registry) id {update}, Counting update → R reg (reg.updateCall id update)
  event : ∀ (reg : Registry) line, R reg (reg.pushEvent line)
  diagnostic : ∀ (reg : Registry) d, R reg (reg.pushDiagnostic d)
  cell : ∀ (reg : Registry) metrics, R reg (reg.recordHeatmapCell metrics)

namespace Carries

variable {R : Registry → Registry → Prop}

/-! ## Streams -/

theorem foldl {α : Type} {op : Registry → α → Registry} (carries : Carries R)
    (each : ∀ reg a, R reg (op reg a)) (l : List α) (reg : Registry) : R reg (l.foldl op reg) := by
  induction l generalizing reg with
  | nil => exact carries.refl reg
  | cons a rest ih => exact carries.trans (each reg a) (ih (op reg a))

theorem reg_foldl {α : Type} {op : Correlator → α → Correlator} (carries : Carries R)
    (each : ∀ c a, R c.reg (op c a).reg) (l : List α) (c : Correlator) : R c.reg (l.foldl op c).reg := by
  induction l generalizing c with
  | nil => exact carries.refl c.reg
  | cons a rest ih => exact carries.trans (each c a) (ih (op c a))

theorem updateStream (carries : Carries R) (reg : Registry) (key : StreamKey)
    (update : RtpStream → RtpStream) : R reg (reg.updateStream key update) :=
  carries.tables reg _ _ _ _ _ _ _ _ _

theorem flushStreamIpattr (carries : Carries R) (reg : Registry) (key : StreamKey) :
    R reg (reg.flushStreamIpattr key) := by
  unfold Registry.flushStreamIpattr
  split
  · exact carries.tables reg _ _ _ _ _ _ _ _ _
  · exact carries.refl reg

theorem dropStream (carries : Carries R) (reg : Registry) (key : StreamKey) :
    R reg (reg.dropStream key) :=
  carries.trans (carries.flushStreamIpattr reg key)
    (carries.tables (reg.flushStreamIpattr key) _ _ _ _ _ _ _ _ _)

theorem evictStream (carries : Carries R) (reg : Registry) (key : StreamKey) :
    R reg (reg.evictStream key) := carries.tables reg _ _ _ _ _ _ _ _ _

/-! ## Removals -/

theorem dropCall (carries : Carries R) (reg : Registry) (id : String) : R reg (reg.dropCall id) := by
  have gone := carries.erased reg id
  have noted := carries.tables { reg with calls := reg.calls.erase id } reg.order reg.streams
    reg.endpointCall (reg.removed ++ [id]) (reg.streamIndex.erase id) reg.ssrcIndex reg.ipstats
    reg.completed reg.failed
  exact carries.trans (carries.trans gone noted)
    (carries.foldl carries.dropStream (reg.callStreamKeys id) _)

theorem removeCalls (carries : Carries R) (reg : Registry) (ids : List String) :
    R reg (reg.removeCalls ids) :=
  carries.trans (carries.foldl carries.dropCall ids reg)
    (carries.tables (ids.foldl Registry.dropCall reg) _ _ _ _ _ _ _ _ _)

theorem evictIfNeeded (carries : Carries R) (iter : Iteration) (reg : Registry) :
    R reg (reg.evictIfNeeded iter) := by
  unfold Registry.evictIfNeeded
  dsimp only
  split <;> split
  · exact carries.trans (carries.removeCalls reg _) (carries.foldl carries.evictStream _ _)
  · exact carries.removeCalls reg _
  · exact carries.foldl carries.evictStream _ reg
  · exact carries.refl reg

theorem evictStale (carries : Carries R) (iter : Iteration) (reg : Registry) (ttlSecs nowUs : UInt64) :
    R reg (reg.evictStale iter ttlSecs nowUs) := by
  unfold Registry.evictStale
  split
  · exact carries.refl reg
  · exact carries.removeCalls reg _

/-! ## Diagnostics and teardown -/

theorem respects (carries : Carries R) : Views.Respects fun a b : Correlator => R a.reg b.reg where
  refl c := carries.refl c.reg
  trans first second := carries.trans first second
  diag c d := by
    unfold addDiagnostic
    split
    · exact carries.refl c.reg
    · have counted := carries.counted c.reg d.callId (.diagnostic d.severity)
      exact carries.trans (carries.trans counted (carries.event _ _)) (carries.diagnostic _ d)
  heatmap c metrics := carries.cell c.reg metrics
  active c ip delta := carries.tables c.reg _ _ _ _ _ _ _ _ _

theorem reportTeardown (carries : Carries R) (c : Correlator) (id : String) (call : Call) :
    R c.reg (c.reportTeardown id call).reg := by
  unfold Correlator.reportTeardown
  dsimp only
  split <;> exact carries.trans (carries.event c.reg _) (carries.tables _ _ _ _ _ _ _ _ _ _)

theorem retireCall (carries : Carries R) (iter : Iteration) (c : Correlator) (id : String) :
    R c.reg (c.retireCall iter id).reg := by
  unfold Correlator.retireCall
  split
  · next call _ =>
    split
    · have reported := carries.reportTeardown c id call
      dsimp only
      generalize c.reportTeardown id call = r at reported ⊢
      refine carries.trans reported ?_
      split
      · exact carries.evictIfNeeded iter r.reg
      · exact carries.removeCalls r.reg [id]
    · exact carries.refl c.reg
  · exact carries.refl c.reg

theorem pruneRemovedBookkeeping (carries : Carries R) (c : Correlator) :
    R c.reg c.pruneRemovedBookkeeping.reg := carries.tables c.reg _ _ _ _ _ _ _ _ _

theorem onCallTerminal (carries : Carries R) (iter : Iteration) (c : Correlator) (id : String) :
    R c.reg (c.onCallTerminal iter id).reg := by
  have stages : c.onCallTerminal iter id =
      ((c.teardownChecks id).retireCall iter id).pruneRemovedBookkeeping := rfl
  have checked : R c.reg (c.teardownChecks id).reg := carries.respects.teardownChecks c id
  rw [stages]
  exact carries.trans (carries.trans checked (carries.retireCall iter _ id))
    (carries.pruneRemovedBookkeeping _)

/-! ## Messages -/

theorem learnSdp (carries : Carries R) (c : Correlator) (id : String) (learned : Option NegotiatedMedia) :
    R c.reg (c.learnSdp id learned).reg := by
  have clocked : ∀ c : Correlator, R c.reg (c.applySdpClocks id).reg := by
    intro c
    unfold Correlator.applySdpClocks
    split
    · exact carries.foldl (fun reg key => carries.updateStream reg key _) _ c.reg
    · exact carries.refl c.reg
  cases learned with
  | none => exact carries.refl c.reg
  | some n =>
    let endpointCall := n.endpoints.foldl (fun m ep => m.insert ep id) c.reg.endpointCall
    have listed : R c.reg { c.reg with endpointCall } := carries.tables c.reg _ _ _ _ _ _ _ _ _
    exact carries.trans listed (clocked { c with reg := { c.reg with endpointCall } })

/-- The state in which a message has reached its call. -/
def stored (c : Correlator) (msg : SipMsg) : Correlator :=
  (c.observeSip msg).storeMessage msg ((sdpOf msg).map NegotiatedMedia.ofSession)

theorem received (carries : Carries R) (c : Correlator) (msg : SipMsg) :
    R (stored c msg).reg (Stages.received c msg).reg := by
  unfold Stages.received stored
  dsimp only
  generalize Correlator.messageDiagnostics _ msg = diags
  generalize (sdpOf msg).map NegotiatedMedia.ofSession = learned
  have taught := carries.learnSdp ((c.observeSip msg).storeMessage msg learned) msg.callId learned
  generalize ((c.observeSip msg).storeMessage msg learned).learnSdp msg.callId learned = r at taught ⊢
  exact carries.trans taught
    (carries.respects.addDiagnostics (r.pushEv (.sipMsg (sipMsgEvt msg))) diags)

/-- What follows once a message has reached its call. -/
theorem ingestSip (carries : Carries R) (iter : Iteration) (c : Correlator) (msg : SipMsg) :
    R (stored c msg).reg (c.ingestSip iter msg).reg := by
  rw [ingestSip_received]
  have heard := carries.received c msg
  generalize Stages.received c msg = r at heard ⊢
  unfold Correlator.latchTerminal
  split
  · exact carries.trans heard (carries.onCallTerminal iter
      { r with terminalDone := insert msg.callId r.terminalDone } msg.callId)
  · exact heard

/-! ## Media -/

theorem ingestRtp (carries : Carries R) (c : Correlator) (ts : UInt64) (flow : Flow5Tuple)
    (header : RtpHeader) (len : Nat) (encap : Encap) :
    R c.reg (c.ingestRtp ts flow header len encap).reg := by
  unfold Correlator.ingestRtp
  dsimp only
  split
  · next stream _ =>
    unfold Correlator.observeExistingRtp
    dsimp only
    have heard := carries.updateStream c.reg { flow, ssrc := header.ssrc } (·.observe ts header len)
    generalize c.reg.updateStream { flow, ssrc := header.ssrc } _ = reg at heard ⊢
    have counted := carries.counted reg stream.callId (.rtp ts)
    exact carries.trans (carries.trans heard counted)
      (carries.respects.addDiagnostics { c with reg := reg.updateCall stream.callId (countRtp ts) } _)
  · split
    · next id _ =>
      unfold Correlator.openRtp
      dsimp only
      generalize openDiagnostics _ _ _ _ _ ts flow header = diags
      generalize opened : Registry.updateCall _ id (noteMedia flow _) = reg
      have listed : R c.reg reg := by
        rw [← opened]
        refine carries.trans ?_ (carries.counted _ id (.media flow _))
        exact carries.tables c.reg _ _ _ _ _ _ _ _ _
      have reported := carries.trans listed (carries.respects.addDiagnostics { c with reg } diags)
      refine carries.trans reported (carries.trans ?_ (carries.counted _ id (.rtp ts)))
      split
      · exact carries.updateStream _ _ _
      · exact carries.refl _
    · exact carries.refl c.reg

theorem attachSample (carries : Carries R) (ts : UInt64) (c : Correlator) (sample : RtcpSample) :
    R c.reg (Correlator.attachSample ts c sample).reg := by
  have timed := carries.foldl (fun reg key =>
    carries.updateStream reg key (·.addTiming sample.rttMs sample.onewayMs))
    (ssrcKeys c.reg sample.ssrc) c.reg
  unfold Correlator.attachSample
  dsimp only
  split <;> exact timed

theorem ingestRtcp (carries : Carries R) (c : Correlator) (ts : UInt64) (flow : Flow5Tuple)
    (msg : RtcpMessage) : R c.reg (c.ingestRtcp ts flow msg).reg := by
  unfold Correlator.ingestRtcp
  dsimp only
  split
  · next id _ =>
    have counted := carries.counted c.reg id (.rtcp ts)
    exact carries.trans counted (carries.reg_foldl (carries.attachSample ts) _
      { c with reg := c.reg.updateCall id (countRtcp ts) })
  · exact carries.reg_foldl (carries.attachSample ts) _ c

/-! ## The periodic pass -/

theorem ipattrTick (carries : Carries R) (iter : Iteration) (c : Correlator) (ts : UInt64) :
    R c.reg (c.ipattrTick iter ts).reg := by
  have attributed : ∀ c : Correlator, R c.reg (c.attributeIpStats iter).reg := fun c =>
    carries.foldl carries.flushStreamIpattr _ c.reg
  unfold Correlator.ipattrTick
  dsimp only
  split <;> split
  · exact attributed { c with lastIpattrUs := some ts }
  · exact attributed c
  · exact carries.refl c.reg
  · exact carries.refl c.reg

theorem snapStream (carries : Carries R) (ts : UInt64) (c : Correlator) (key : StreamKey) :
    R c.reg (Correlator.snapStream ts c key).reg := by
  have sampled := carries.updateStream c.reg key (·.sample ts)
  unfold Correlator.snapStream
  dsimp only
  repeat' split
  all_goals first | exact sampled | exact carries.refl c.reg

theorem snapStreams (carries : Carries R) (iter : Iteration) (c : Correlator) (ts : UInt64) :
    R c.reg (c.snapStreams iter ts).reg := carries.reg_foldl (carries.snapStream ts) _ c

end Carries

/-! ## Aging and search -/

/-- Such a relation that the heatmap and the search pins do not matter to. -/
structure Tends (R : Registry → Registry → Prop) : Prop extends Carries R where
  aged : ∀ (reg : Registry) heatmap, R reg { reg with heatmap }
  searched : ∀ (reg : Registry) searchHint searchMatches, R reg { reg with searchHint, searchMatches }

namespace Tends

variable {R : Registry → Registry → Prop}

theorem pruneHeatmap (tends : Tends R) (reg : Registry) : R reg reg.pruneHeatmap := by
  unfold Registry.pruneHeatmap
  split
  · exact tends.aged reg _
  · exact tends.refl reg

theorem refreshSearchMatches (tends : Tends R) (iter : Iteration) (reg : Registry) :
    R reg (reg.refreshSearchMatches iter) := by
  unfold Registry.refreshSearchMatches
  split <;> exact tends.searched reg reg.searchHint _

theorem setSearchHint (tends : Tends R) (iter : Iteration) (reg : Registry) (q : Option String) :
    R reg (reg.setSearchHint iter q) := by
  unfold Registry.setSearchHint
  dsimp only
  generalize Option.filter _ _ = searchHint
  split
  · exact tends.refl reg
  · exact tends.trans (tends.searched reg searchHint reg.searchMatches) (tends.refreshSearchMatches iter _)

theorem evictPass (tends : Tends R) (iter : Iteration) (c : Correlator) (ts : UInt64) :
    R c.reg (c.evictPass iter ts).reg := by
  have matched : R c.reg
      (if c.reg.searchHint.isSome then c.reg.refreshSearchMatches iter else c.reg) := by
    split
    · exact tends.refreshSearchMatches iter c.reg
    · exact tends.refl c.reg
  exact tends.trans (tends.trans matched (tends.evictStale iter _ c.callTtlSecs ts))
    (tends.evictIfNeeded iter _)

/-- The periodic flush, given what its last pass does to the rows of idle addresses. -/
theorem flush (tends : Tends R) (iter : Iteration) (c : Correlator) (ts : UInt64)
    (idle : tickerDue (c.ipattrTick iter ts).lastFlushUs ts flushPeriodUs = true →
      ∀ r : Correlator, R c.reg r.reg → R r.reg (r.pruneIdleIps ts).reg) :
    R c.reg (c.maybePeriodicFlush iter ts).reg := by
  have ticked := tends.ipattrTick iter c ts
  by_cases due : tickerDue (c.ipattrTick iter ts).lastFlushUs ts flushPeriodUs = true
  · have aged := tends.trans ticked (tends.pruneHeatmap (c.ipattrTick iter ts).reg)
    have snap : R c.reg (snapped iter c ts).reg := tends.trans aged (tends.snapStreams iter
      { flushed iter c ts with
        reg := (c.ipattrTick iter ts).reg.pruneHeatmap, turn := (flushed iter c ts).turn.prune iter
        tcpReasm := (flushed iter c ts).tcpReasm.prune ts TcpReassembler.idleUs } ts)
    have cut := tends.trans (tends.trans snap (tends.evictPass iter (snapped iter c ts) ts))
      (tends.pruneRemovedBookkeeping ((snapped iter c ts).evictPass iter ts))
    rw [maybePeriodicFlush_due iter due]
    exact tends.trans cut (idle due _ cut)
  · unfold maybePeriodicFlush
    simp only [due, Bool.or_false, if_false, Bool.false_eq_true]
    split <;> exact ticked

end Tends
end Sipmon.Guarantees.Carried
