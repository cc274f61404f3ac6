import Sipmon.Guarantees.Stages
import Sipmon.Guarantees.Views
import Sipmon.Lib.VersionedCache

/-!
# What messages do to the logs

Between two snapshots a message may append to the logs and to the heatmap, and
each change comes with a new version. The caches and the search pins are left
alone.
-/
namespace Sipmon.Guarantees.LogVersions
open Source Lib Correlator Stages Views
open Lib.VersionedCache (Moved)

/-- The search pins. -/
def pins (reg : Registry) : Option String × List String × Option FocusHint :=
  (reg.searchHint, reg.searchMatches, reg.focusHint)

/-- What the snapshot functions cached. -/
def caches (reg : Registry) :
    Option (Nat × List String) × Option (Nat × List Diagnostic) ×
      Option (Nat × List (UInt64 × String × Evlog.MetricSet)) :=
  (reg.eventsCache, reg.diagCache, reg.bucketsCache)

/-- The cached contents with their versions. -/
def events (reg : Registry) : Nat × List String := (reg.eventsVer, reg.events)
def diagnostics (reg : Registry) : Nat × List Diagnostic := (reg.diagVer, reg.diagnostics)
def heatmap (reg : Registry) : Nat × Heatmap := (reg.heatVer, reg.heatmap)

/-- From one registry to a later one without a snapshot, a prune or a refresh in between. -/
structure Onward (a b : Registry) : Prop where
  pins : pins b = pins a
  caches : caches b = caches a
  events : Moved (events a) (events b)
  diagnostics : Moved (diagnostics a) (diagnostics b)
  heatmap : Moved (heatmap a) (heatmap b)

theorem Onward.refl (a : Registry) : Onward a a := ⟨rfl, rfl, .inr rfl, .inr rfl, .inr rfl⟩

theorem Onward.trans {a b c : Registry} (first : Onward a b) (second : Onward b c) : Onward a c :=
  ⟨second.pins.trans first.pins, second.caches.trans first.caches, first.events.trans second.events,
    first.diagnostics.trans second.diagnostics, first.heatmap.trans second.heatmap⟩

/-- Everything `Onward` looks at. -/
def memo (reg : Registry) := (pins reg, caches reg, events reg, diagnostics reg, heatmap reg)

theorem staying_memo : Staying memo where
  tables _ _ _ _ _ _ _ _ _ _ _ _ := rfl

theorem onward_of_memo {a b : Registry} (same : memo b = memo a) : Onward a b := by
  simp only [memo, Prod.mk.injEq] at same
  obtain ⟨pins, caches, events, diagnostics, heatmap⟩ := same
  exact ⟨pins, caches, .inr events, .inr diagnostics, .inr heatmap⟩

theorem onward_pushEvent (reg : Registry) (line : String) : Onward reg (reg.pushEvent line) := by
  unfold Registry.pushEvent
  generalize Registry.keepLast _ _ = lines
  exact ⟨rfl, rfl, .inl (Nat.lt_succ_self reg.eventsVer), .inr rfl, .inr rfl⟩

theorem onward_pushDiagnostic (reg : Registry) (d : Diagnostic) : Onward reg (reg.pushDiagnostic d) := by
  unfold Registry.pushDiagnostic
  generalize Registry.keepLast _ _ = kept
  exact ⟨rfl, rfl, .inr rfl, .inl (Nat.lt_succ_self reg.diagVer), .inr rfl⟩

theorem onward_recordHeatmapCell (reg : Registry) (metrics : CallMetrics) :
    Onward reg (reg.recordHeatmapCell metrics) where
  pins := rfl
  caches := rfl
  events := .inr rfl
  diagnostics := .inr rfl
  heatmap := .inl (Nat.lt_succ_self reg.heatVer)

/-! ## Messages -/

theorem respects_onward : Respects fun a b : Correlator => Onward a.reg b.reg where
  refl c := .refl c.reg
  trans first second := first.trans second
  diag c d := by
    unfold addDiagnostic
    split
    · exact .refl c.reg
    · have counted := onward_of_memo (staying_memo.updateCall c.reg d.callId (countDiagnostic d.severity))
      exact (counted.trans (onward_pushEvent _ _)).trans (onward_pushDiagnostic _ d)
  heatmap c metrics := onward_recordHeatmapCell c.reg metrics
  active c ip delta := onward_of_memo rfl

theorem onward_received (c : Correlator) (msg : SipMsg) : Onward c.reg (received c msg).reg := by
  unfold received
  dsimp only
  generalize Correlator.messageDiagnostics _ msg = diags
  generalize (sdpOf msg).map NegotiatedMedia.ofSession = learned
  have stored : memo (((c.observeSip msg).storeMessage msg learned).learnSdp msg.callId learned).reg =
      memo c.reg := by
    rw [staying_memo.learnSdp, staying_memo.storeMessage, staying_memo.observeSip]
  generalize ((c.observeSip msg).storeMessage msg learned).learnSdp msg.callId learned = r at stored ⊢
  exact (onward_of_memo stored).trans
    (respects_onward.addDiagnostics (r.pushEv (.sipMsg (sipMsgEvt msg))) diags)

theorem onward_counted (reg : Registry) (completed failed : Nat) :
    Onward reg { reg with completed, failed } := onward_of_memo rfl

theorem onward_reportTeardown (c : Correlator) (id : String) (call : Call) :
    Onward c.reg (c.reportTeardown id call).reg := by
  unfold reportTeardown
  dsimp only
  split <;> exact (onward_pushEvent c.reg _).trans (onward_counted _ _ _)

theorem onward_retireCall (iter : Iteration) (c : Correlator) (id : String) :
    Onward c.reg (c.retireCall iter id).reg := by
  unfold retireCall
  split
  · next call _ =>
    split
    · have reported := onward_reportTeardown c id call
      dsimp only
      generalize c.reportTeardown id call = r at reported ⊢
      refine reported.trans (onward_of_memo ?_)
      split
      · exact staying_memo.evictIfNeeded iter r.reg
      · exact staying_memo.removeCalls r.reg [id]
    · exact .refl c.reg
  · exact .refl c.reg

theorem onward_pruneRemovedBookkeeping (c : Correlator) : Onward c.reg c.pruneRemovedBookkeeping.reg :=
  onward_of_memo rfl

theorem onward_onCallTerminal (iter : Iteration) (c : Correlator) (id : String) :
    Onward c.reg (c.onCallTerminal iter id).reg := by
  have stages : c.onCallTerminal iter id =
      ((c.teardownChecks id).retireCall iter id).pruneRemovedBookkeeping := rfl
  have checked : Onward c.reg (c.teardownChecks id).reg := respects_onward.teardownChecks c id
  rw [stages]
  exact (checked.trans (onward_retireCall iter _ id)).trans (onward_pruneRemovedBookkeeping _)

theorem onward_ingestSip (iter : Iteration) (c : Correlator) (msg : SipMsg) :
    Onward c.reg (c.ingestSip iter msg).reg := by
  rw [ingestSip_received]
  have heard := onward_received c msg
  generalize received c msg = r at heard ⊢
  unfold latchTerminal
  split
  · exact heard.trans (onward_onCallTerminal iter
      { r with terminalDone := insert msg.callId r.terminalDone } msg.callId)
  · exact heard

theorem onward_ingestRtp (c : Correlator) (ts : UInt64) (flow : Flow5Tuple) (header : RtpHeader)
    (len : Nat) (encap : Encap) : Onward c.reg (c.ingestRtp ts flow header len encap).reg := by
  unfold ingestRtp
  dsimp only
  split
  · next stream _ =>
    unfold observeExistingRtp
    dsimp only
    refine Onward.trans (onward_of_memo ?_) (respects_onward.addDiagnostics _ _)
    exact (staying_memo.updateCall _ _ _).trans (staying_memo.updateStream c.reg _ _)
  · split
    · next id _ =>
      unfold openRtp
      dsimp only
      generalize openDiagnostics _ _ _ _ _ ts flow header = diags
      generalize opened : Registry.updateCall _ id (noteMedia flow _) = reg
      have listed : memo reg = memo c.reg := by
        rw [← opened, staying_memo.updateCall]
        exact staying_memo.tables c.reg _ _ _ _ _ _ _ _ _ _ _
      have reported := (onward_of_memo listed).trans
        (respects_onward.addDiagnostics { c with reg } diags)
      refine reported.trans (onward_of_memo ?_)
      rw [staying_memo.updateCall]
      split
      · exact staying_memo.updateStream _ _ _
      · rfl
    · exact .refl c.reg

theorem onward_ingestRtcp (c : Correlator) (ts : UInt64) (flow : Flow5Tuple) (msg : RtcpMessage) :
    Onward c.reg (c.ingestRtcp ts flow msg).reg := onward_of_memo (staying_memo.ingestRtcp c ts flow msg)

/-! ## The periodic pass -/

/-- The state in which the periodic pass starts to evict. -/
def hinted (iter : Iteration) (c : Correlator) : Registry :=
  if c.reg.searchHint.isSome then c.reg.refreshSearchMatches iter else c.reg

/-- What a prune of the heatmap cuts by. -/
def retention (reg : Registry) : Option UInt64 × UInt64 := (reg.lastUs, reg.heatmapRetainUs)

theorem staying_retention : Staying retention where
  tables _ _ _ _ _ _ _ _ _ _ _ _ := rfl

theorem memo_flushed (iter : Iteration) (c : Correlator) (ts : UInt64) :
    memo (flushed iter c ts).reg = memo c.reg := staying_memo.ipattrTick iter c ts

theorem memo_snapped (iter : Iteration) (c : Correlator) (ts : UInt64) :
    memo (snapped iter c ts).reg = memo (flushed iter c ts).reg.pruneHeatmap :=
  staying_memo.snapStreams iter _ ts

theorem memo_evictPass (iter : Iteration) (c : Correlator) (ts : UInt64) :
    memo (c.evictPass iter ts).reg = memo (hinted iter c) := by
  have stages : (c.evictPass iter ts).reg =
      ((hinted iter c).evictStale iter c.callTtlSecs ts).evictIfNeeded iter := rfl
  rw [stages, staying_memo.evictIfNeeded, staying_memo.evictStale]

theorem memo_maybePeriodicFlush (iter : Iteration) (c : Correlator) (ts : UInt64) :
    memo (c.maybePeriodicFlush iter ts).reg =
      if tickerDue (c.ipattrTick iter ts).lastFlushUs ts flushPeriodUs then
        memo (hinted iter (snapped iter c ts))
      else memo c.reg := by
  have pass : (flushed iter c ts).flushPass iter ts =
      (((snapped iter c ts).evictPass iter ts).pruneRemovedBookkeeping).pruneIdleIps ts := rfl
  have idle : ∀ c : Correlator, memo (c.pruneRemovedBookkeeping.pruneIdleIps ts).reg = memo c.reg :=
    fun c => staying_memo.tables c.reg _ _ _ _ _ _ _ _ _ _ _
  unfold maybePeriodicFlush
  dsimp only
  by_cases due : tickerDue (c.ipattrTick iter ts).lastFlushUs ts flushPeriodUs = true
  · simp only [due, Bool.or_true, if_true]
    change memo ((flushed iter c ts).flushPass iter ts).reg = _
    rw [pass, idle, memo_evictPass]
  · simp only [due, Bool.or_false, if_false, Bool.false_eq_true]
    rw [← staying_memo.ipattrTick iter c ts]
    split <;> rfl

end Sipmon.Guarantees.LogVersions
