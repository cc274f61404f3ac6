import Sipmon.Source.Ingest

/-!
# Views of the correlator

A view is a function of the correlator state that a guarantee talks about. The
diagnostics path and the teardown checks touch only diagnostics, the per-IP
counters and the heatmap, so a view that is blind to these three is blind to
the checks as a whole.
-/
namespace Sipmon.Guarantees.Views
open Source Lib

variable {β : Type*}

/-- A view that diagnostics and the heatmap do not change. -/
structure Mute (view : Correlator → β) : Prop where
  diag : ∀ c d, view (c.addDiagnostic d) = view c
  heatmap : ∀ (c : Correlator) metrics, view { c with reg := c.reg.recordHeatmapCell metrics } = view c

/-- A view that the per-IP counters do not change either. -/
structure Blind (view : Correlator → β) : Prop extends Mute view where
  ipstats : ∀ (c : Correlator) ipstats, view { c with reg := { c.reg with ipstats } } = view c

namespace Mute

variable {view : Correlator → β}

theorem addDiagnostics (mute : Mute view) (c : Correlator) (ds : List Diagnostic) :
    view (c.addDiagnostics ds) = view c := by
  induction ds generalizing c with
  | nil => rfl
  | cons d rest ih => exact (ih (c.addDiagnostic d)).trans (mute.diag c d)

theorem checkOneway (mute : Mute view) (c : Correlator) (id : String) :
    view (c.checkOnewayAtTeardown id) = view c := by
  unfold Correlator.checkOnewayAtTeardown
  dsimp only
  repeat' split
  all_goals first | rfl | exact mute.diag c _

theorem checkTurnLegs (mute : Mute view) (c : Correlator) (id : String) :
    view (c.checkTurnLegs id) = view c := by
  unfold Correlator.checkTurnLegs
  dsimp only
  repeat' split
  all_goals first | rfl | exact mute.diag c _

theorem recordHeatmap (mute : Mute view) (c : Correlator) (id : String) :
    view (c.recordHeatmap id) = view c := by
  unfold Correlator.recordHeatmap
  repeat' split
  · exact mute.heatmap c _
  all_goals rfl

/-- What `on_call_terminal` does before it releases the per-IP counters. -/
theorem checks (mute : Mute view) (c : Correlator) (id : String) :
    view (((c.checkOnewayAtTeardown id).checkTurnLegs id).recordHeatmap id) = view c := by
  rw [mute.recordHeatmap, mute.checkTurnLegs, mute.checkOneway]

end Mute

namespace Blind

variable {view : Correlator → β}

theorem releaseActive (blind : Blind view) (c : Correlator) (id : String) :
    view (c.releaseActive id) = view c := by
  unfold Correlator.releaseActive
  split
  · exact blind.ipstats c _
  · rfl

/-- Everything `on_call_terminal` does before it retires the call. -/
theorem teardownChecks (blind : Blind view) (c : Correlator) (id : String) :
    view (c.teardownChecks id) = view c := by
  unfold Correlator.teardownChecks
  rw [blind.releaseActive, blind.checks]

end Blind

/-- A relation that diagnostics, heatmap cells and the concurrent-call counters respect. -/
structure Respects (R : Correlator → Correlator → Prop) : Prop where
  refl : ∀ c, R c c
  trans : ∀ {a b c}, R a b → R b c → R a c
  diag : ∀ c d, R c (c.addDiagnostic d)
  heatmap : ∀ (c : Correlator) metrics, R c { c with reg := c.reg.recordHeatmapCell metrics }
  active : ∀ (c : Correlator) ip delta,
    R c { c with reg := { c.reg with ipstats := c.reg.ipstats.addActive ip delta } }

namespace Respects

variable {R : Correlator → Correlator → Prop}

theorem addDiagnostics (respects : Respects R) (c : Correlator) (ds : List Diagnostic) :
    R c (c.addDiagnostics ds) := by
  induction ds generalizing c with
  | nil => exact respects.refl c
  | cons d rest ih => exact respects.trans (respects.diag c d) (ih (c.addDiagnostic d))

theorem checkOneway (respects : Respects R) (c : Correlator) (id : String) :
    R c (c.checkOnewayAtTeardown id) := by
  unfold Correlator.checkOnewayAtTeardown
  dsimp only
  repeat' split
  all_goals first | exact respects.refl c | exact respects.diag c _

theorem checkTurnLegs (respects : Respects R) (c : Correlator) (id : String) :
    R c (c.checkTurnLegs id) := by
  unfold Correlator.checkTurnLegs
  dsimp only
  repeat' split
  all_goals first | exact respects.refl c | exact respects.diag c _

theorem recordHeatmap (respects : Respects R) (c : Correlator) (id : String) :
    R c (c.recordHeatmap id) := by
  unfold Correlator.recordHeatmap
  split
  · split
    · exact respects.heatmap c _
    · exact respects.refl c
  · exact respects.refl c

theorem releaseActive (respects : Respects R) (c : Correlator) (id : String) :
    R c (c.releaseActive id) := by
  have released : ∀ (ips : List IpAddr) (store : IpStatsStore),
      R { c with reg := { c.reg with ipstats := store } }
        { c with reg := { c.reg with
            ipstats := ips.foldl (fun store ip => store.addActive ip (-1)) store } } := by
    intro ips
    induction ips with
    | nil => exact fun store => respects.refl _
    | cons ip rest ih =>
      intro store
      exact respects.trans (respects.active { c with reg := { c.reg with ipstats := store } } ip (-1))
        (ih (store.addActive ip (-1)))
  unfold Correlator.releaseActive
  split
  · exact released _ c.reg.ipstats
  · exact respects.refl c

/-- Everything `on_call_terminal` does before it retires the call. -/
theorem teardownChecks (respects : Respects R) (c : Correlator) (id : String) :
    R c (c.teardownChecks id) := by
  have oneway := respects.checkOneway c id
  have legs := respects.checkTurnLegs (c.checkOnewayAtTeardown id) id
  have heatmap := respects.recordHeatmap ((c.checkOnewayAtTeardown id).checkTurnLegs id) id
  have released := respects.releaseActive
    (((c.checkOnewayAtTeardown id).checkTurnLegs id).recordHeatmap id) id
  exact respects.trans (respects.trans (respects.trans oneway legs) heatmap) released

end Respects

/-- A view of the registry without its tables and counters. -/
structure Staying (view : Registry → β) : Prop where
  tables : ∀ (reg : Registry) calls order streams endpointCall removed streamIndex ssrcIndex ipstats sipstats
      completed failed,
    view { reg with
      calls, order, streams, endpointCall, removed, streamIndex, ssrcIndex, ipstats, sipstats, completed
      failed } = view reg

namespace Staying

variable {view : Registry → β}

theorem foldl {α : Type} {op : Registry → α → Registry} (keeps : ∀ reg a, view (op reg a) = view reg)
    (l : List α) (reg : Registry) : view (l.foldl op reg) = view reg := by
  induction l generalizing reg with
  | nil => rfl
  | cons a rest ih => exact (ih (op reg a)).trans (keeps reg a)

theorem flushStreamIpattr (staying : Staying view) (reg : Registry) (key : StreamKey) :
    view (reg.flushStreamIpattr key) = view reg := by
  unfold Registry.flushStreamIpattr
  split
  · exact staying.tables reg _ _ _ _ _ _ _ _ _ _ _
  · rfl

theorem dropStream (staying : Staying view) (reg : Registry) (key : StreamKey) :
    view (reg.dropStream key) = view reg := by
  have gone := staying.tables (reg.flushStreamIpattr key)
  exact (gone _ _ _ _ _ _ _ _ _ _ _).trans (staying.flushStreamIpattr reg key)

theorem evictStream (staying : Staying view) (reg : Registry) (key : StreamKey) :
    view (reg.evictStream key) = view reg := staying.tables reg _ _ _ _ _ _ _ _ _ _ _

theorem dropCall (staying : Staying view) (reg : Registry) (id : String) :
    view (reg.dropCall id) = view reg := by
  have erased := staying.tables reg (reg.calls.erase id) reg.order reg.streams reg.endpointCall
    (reg.removed ++ [id]) (reg.streamIndex.erase id) reg.ssrcIndex reg.ipstats reg.sipstats
    reg.completed reg.failed
  exact (foldl staying.dropStream (reg.callStreamKeys id) _).trans erased

theorem removeCalls (staying : Staying view) (reg : Registry) (ids : List String) :
    view (reg.removeCalls ids) = view reg := by
  have dropped := foldl staying.dropCall ids reg
  exact (staying.tables (ids.foldl Registry.dropCall reg) _ _ _ _ _ _ _ _ _ _ _).trans dropped

theorem evictIfNeeded (staying : Staying view) (iter : Iteration) (reg : Registry) :
    view (reg.evictIfNeeded iter) = view reg := by
  unfold Registry.evictIfNeeded
  dsimp only
  split <;> split
  · exact (foldl staying.evictStream _ _).trans (staying.removeCalls reg _)
  · exact staying.removeCalls reg _
  · exact foldl staying.evictStream _ reg
  · rfl

theorem evictStale (staying : Staying view) (iter : Iteration) (reg : Registry) (ttlSecs nowUs : UInt64) :
    view (reg.evictStale iter ttlSecs nowUs) = view reg := by
  unfold Registry.evictStale
  split
  · rfl
  · exact staying.removeCalls reg _

theorem updateCall (staying : Staying view) (reg : Registry) (id : String) (update : Call → Call) :
    view (reg.updateCall id update) = view reg := staying.tables reg _ _ _ _ _ _ _ _ _ _ _

theorem updateStream (staying : Staying view) (reg : Registry) (key : StreamKey)
    (update : RtpStream → RtpStream) : view (reg.updateStream key update) = view reg :=
  staying.tables reg _ _ _ _ _ _ _ _ _ _ _

theorem getOrCreateCall (staying : Staying view) (reg : Registry) (id : String) :
    view (reg.getOrCreateCall id) = view reg := by
  unfold Registry.getOrCreateCall
  split
  · rfl
  · exact staying.tables reg _ _ _ _ _ _ _ _ _ _ _

theorem observeSip (staying : Staying view) (c : Correlator) (msg : SipMsg) :
    view (c.observeSip msg).reg = view c.reg := by
  unfold Correlator.observeSip
  dsimp only
  split <;> exact staying.tables c.reg _ _ _ _ _ _ _ _ _ _ _

theorem storeMessage (staying : Staying view) (c : Correlator) (msg : SipMsg)
    (learned : Option NegotiatedMedia) : view (c.storeMessage msg learned).reg = view c.reg :=
  (staying.updateCall _ _ _).trans (staying.getOrCreateCall c.reg msg.callId)

theorem learnSdp (staying : Staying view) (c : Correlator) (id : String)
    (learned : Option NegotiatedMedia) : view (c.learnSdp id learned).reg = view c.reg := by
  have clocked : ∀ c : Correlator, view (c.applySdpClocks id).reg = view c.reg := by
    intro c
    unfold Correlator.applySdpClocks
    split
    · exact foldl (fun reg key => staying.updateStream reg key _) _ c.reg
    · rfl
  cases learned with
  | none => rfl
  | some n => exact (clocked _).trans (staying.tables c.reg _ _ _ _ _ _ _ _ _ _ _)

theorem attachSample (staying : Staying view) (ts : UInt64) (c : Correlator)
    (sample : Correlator.RtcpSample) : view (Correlator.attachSample ts c sample).reg = view c.reg := by
  have timed := foldl (fun reg key =>
    staying.updateStream reg key (·.addTiming sample.rttMs sample.onewayMs))
    (Correlator.ssrcKeys c.reg sample.ssrc) c.reg
  unfold Correlator.attachSample
  dsimp only
  split <;> exact timed

theorem reg_foldl {α : Type} {op : Correlator → α → Correlator}
    (keeps : ∀ c a, view (op c a).reg = view c.reg) (l : List α) (c : Correlator) :
    view (l.foldl op c).reg = view c.reg := by
  induction l generalizing c with
  | nil => rfl
  | cons a rest ih => exact (ih (op c a)).trans (keeps c a)

theorem ingestRtcp (staying : Staying view) (c : Correlator) (ts : UInt64) (flow : Flow5Tuple)
    (msg : RtcpMessage) : view (c.ingestRtcp ts flow msg).reg = view c.reg := by
  unfold Correlator.ingestRtcp
  dsimp only
  split
  · exact (reg_foldl (staying.attachSample ts) _ _).trans (staying.updateCall c.reg _ _)
  · exact reg_foldl (staying.attachSample ts) _ c

theorem ipattrTick (staying : Staying view) (iter : Iteration) (c : Correlator) (ts : UInt64) :
    view (c.ipattrTick iter ts).reg = view c.reg := by
  have attributed : ∀ c : Correlator, view (c.attributeIpStats iter).reg = view c.reg := fun c =>
    foldl staying.flushStreamIpattr _ c.reg
  unfold Correlator.ipattrTick
  dsimp only
  split <;> split
  · exact attributed { c with lastIpattrUs := some ts }
  · exact attributed c
  · rfl
  · rfl

theorem snapStream (staying : Staying view) (ts : UInt64) (c : Correlator) (key : StreamKey) :
    view (Correlator.snapStream ts c key).reg = view c.reg := by
  have sampled := staying.updateStream c.reg key (·.sample ts)
  unfold Correlator.snapStream
  dsimp only
  repeat' split
  all_goals first | exact sampled | rfl

theorem snapStreams (staying : Staying view) (iter : Iteration) (c : Correlator) (ts : UInt64) :
    view (c.snapStreams iter ts).reg = view c.reg := reg_foldl (staying.snapStream ts) _ c

end Staying
end Sipmon.Guarantees.Views
