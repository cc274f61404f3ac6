import Sipmon.Guarantees.RegistryIndex
import Sipmon.Guarantees.Stages

/-!
# The counters of the streams, tracked and recorded

`sheet` shows a correlator as its streams' counters and the snapshots of them
it has emitted. Signaling, RTCP and the attribution ticker move no counter and
emit no snapshot: at most they take streams away.
-/
namespace Sipmon.Guarantees.StreamSheet
open Source Lib Views RegistryIndex
open Evlog (Event)

/-- What a snapshot says of a stream, and what the stream says of itself. -/
@[ext]
structure Figures where
  key : StreamKey
  callId : String
  packets : UInt64
  bytes : UInt64
  lost : UInt64
  deriving DecidableEq

def figures (s : RtpStream) : Figures :=
  { key := { flow := s.flow, ssrc := s.ssrc }, callId := s.callId
    packets := .ofNat s.snapshotStats.packetCount
    bytes := .ofNat s.bytes
    lost := .ofNat s.snapshotStats.lostPackets }

/-- The snapshots among the events. -/
def snapOf : Event → Option Figures
  | .streamSnap e =>
    some { key := { flow := e.flow, ssrc := e.ssrc }, callId := e.callId
           packets := e.packets, bytes := e.bytes, lost := e.lost }
  | _ => none

theorem snapOf_toSnapEvt (s : RtpStream) (ts : UInt64) :
    snapOf (.streamSnap (s.toSnapEvt ts)) = some (figures s) := rfl

structure Sheet where
  live : StreamKey → Option Figures
  snaps : List Figures
  logging : Bool

def liveFigures (reg : Registry) (k : StreamKey) : Option Figures :=
  (reg.streams.lookup k).map figures

theorem live_of_streams {reg after : Registry} (same : after.streams = reg.streams) :
    liveFigures after = liveFigures reg := by
  funext k
  simp only [liveFigures, same]

def sheet (c : Correlator) : Sheet :=
  ⟨liveFigures c.reg, c.pendingEvents.filterMap snapOf, c.emitEvlog⟩

theorem live_of_sheet {c after : Correlator} (same : sheet after = sheet c) :
    liveFigures after.reg = liveFigures c.reg := congrArg Sheet.live same

/-- Streams may leave; the others keep their counters, and nothing is recorded. -/
structure Sheet.Drops (s t : Sheet) : Prop where
  live : ∀ k f, t.live k = some f → s.live k = some f
  snaps : t.snaps = s.snaps
  logging : t.logging = s.logging

theorem Sheet.Drops.refl (s : Sheet) : s.Drops s := ⟨fun _ _ present => present, rfl, rfl⟩

theorem Sheet.Drops.trans {s t u : Sheet} (first : s.Drops t) (second : t.Drops u) : s.Drops u :=
  ⟨fun k f present => first.live k f (second.live k f present), second.snaps.trans first.snaps,
    second.logging.trans first.logging⟩

theorem Sheet.Drops.of_eq {s t : Sheet} (same : t = s) : s.Drops t := same ▸ .refl s

/-! ## What keeps the counters of a stream -/

theorem figures_applyClockRate (s : RtpStream) (rate : UInt32) :
    figures (s.applyClockRate rate) = figures s := by
  unfold RtpStream.applyClockRate MediaStatsAccumulator.setClockRate
  split
  · rfl
  · split <;> rfl

theorem figures_reclock (neg : NegotiatedMedia) (s : RtpStream) :
    figures (Correlator.reclock neg s) = figures s := by
  unfold Correlator.reclock
  split
  · split
    · exact figures_applyClockRate s _
    · rfl
  · rfl

theorem figures_sample (s : RtpStream) (ts : UInt64) : figures (s.sample ts) = figures s := by
  unfold RtpStream.sample
  split <;> rfl

theorem live_updateStream (reg : Registry) (key : StreamKey) {f : RtpStream → RtpStream}
    (keeps : ∀ s, figures (f s) = figures s) :
    liveFigures (reg.updateStream key f) = liveFigures reg := by
  funext k
  unfold liveFigures Registry.updateStream
  rw [FiniteMap.lookup_modify]
  split
  · rw [Option.map_map]
    exact congrArg (Option.map · _) (funext keeps)
  · rfl

theorem live_updateStreams (keys : List StreamKey) {f : RtpStream → RtpStream}
    (keeps : ∀ s, figures (f s) = figures s) (reg : Registry) :
    liveFigures (keys.foldl (fun reg k => reg.updateStream k f) reg) = liveFigures reg := by
  induction keys generalizing reg with
  | nil => rfl
  | cons key rest ih => rw [List.foldl_cons, ih, live_updateStream reg key keeps]

theorem live_flushStreamIpattr (reg : Registry) (key : StreamKey) :
    liveFigures (reg.flushStreamIpattr key) = liveFigures reg := by
  unfold Registry.flushStreamIpattr
  split
  · exact live_updateStream reg key fun _ => rfl
  · rfl

/-! ## Stages that leave the sheet alone -/

theorem sheet_reg (c : Correlator) {reg : Registry} (same : liveFigures reg = liveFigures c.reg) :
    sheet { c with reg } = sheet c := by
  simp only [sheet, same]

/-- An event that is no snapshot. -/
theorem sheet_pushEv (c : Correlator) (ev : Event) (other : snapOf ev = none) :
    sheet (c.pushEv ev) = sheet c := by
  have snaps : (if c.emitEvlog then c.pendingEvents ++ [ev] else c.pendingEvents).filterMap snapOf =
      c.pendingEvents.filterMap snapOf := by
    split
    · rw [List.filterMap_append, List.filterMap_cons_none other, List.filterMap_nil, List.append_nil]
    · rfl
  simp only [sheet, Correlator.pushEv, snaps]

theorem blind_sheet : Blind sheet where
  diag c d := by
    unfold Correlator.addDiagnostic
    dsimp only
    split
    · rfl
    · refine Eq.trans ?_ (sheet_pushEv c (.diag
        { tsUs := d.tsUs, callId := d.callId, severity := Correlator.severityCode d.severity
          code := d.code, message := d.message }) rfl)
      refine sheet_reg _ (live_of_streams ?_)
      simp only [Registry.pushDiagnostic, Registry.pushEvent, Registry.updateCall]
  heatmap _ _ := rfl
  ipstats _ _ := rfl

theorem sheet_observeSip (c : Correlator) (msg : SipMsg) : sheet (c.observeSip msg) = sheet c := by
  unfold Correlator.observeSip
  dsimp only
  split <;> rfl

theorem sheet_storeMessage (c : Correlator) (msg : SipMsg) (learned : Option NegotiatedMedia) :
    sheet (c.storeMessage msg learned) = sheet c := by
  unfold Correlator.storeMessage Registry.getOrCreateCall
  split <;> rfl

theorem sheet_learnSdp (c : Correlator) (id : String) (learned : Option NegotiatedMedia) :
    sheet (c.learnSdp id learned) = sheet c := by
  unfold Correlator.learnSdp
  split
  · unfold Correlator.learnEndpoints Correlator.applySdpClocks
    dsimp only
    split
    · exact sheet_reg c (live_updateStreams _ (fun s => figures_reclock _ s) _)
    · rfl
  · rfl

theorem sheet_reportTeardown (c : Correlator) (id : String) (call : Call) :
    sheet (c.reportTeardown id call) = sheet c := by
  unfold Correlator.reportTeardown
  dsimp only
  generalize logged : c.reg.pushEvent _ = reg
  have live : liveFigures reg = liveFigures c.reg := by
    refine live_of_streams ?_
    rw [← logged]
    simp only [Registry.pushEvent]
  have reported := (sheet_pushEv { c with reg }
    (.call (Correlator.teardownEvt id call reg.lastUs)) rfl).trans (sheet_reg c live)
  split
  all_goals exact reported

theorem sheet_attachSample (ts : UInt64) (c : Correlator) (sample : Correlator.RtcpSample) :
    sheet (Correlator.attachSample ts c sample) = sheet c := by
  have attached : sheet { c with reg := (Correlator.ssrcKeys c.reg sample.ssrc).foldl (fun reg k =>
      reg.updateStream k (·.addTiming sample.rttMs sample.onewayMs)) c.reg } = sheet c :=
    sheet_reg c (live_updateStreams _ (f := (·.addTiming sample.rttMs sample.onewayMs))
      (fun _ => rfl) c.reg)
  unfold Correlator.attachSample
  dsimp only
  split
  · exact (sheet_pushEv _ _ rfl).trans attached
  · exact attached

theorem sheet_ingestRtcp (c : Correlator) (ts : UInt64) (flow : Flow5Tuple) (msg : RtcpMessage) :
    sheet (c.ingestRtcp ts flow msg) = sheet c := by
  have samples : ∀ (l : List Correlator.RtcpSample) (c : Correlator),
      sheet (l.foldl (Correlator.attachSample ts) c) = sheet c := by
    intro l
    induction l with
    | nil => exact fun _ => rfl
    | cons sample rest ih => exact fun c => (ih _).trans (sheet_attachSample ts c sample)
  unfold Correlator.ingestRtcp
  dsimp only
  split
  · exact samples _ _
  · exact samples _ c

theorem sheet_ipattrTick (iter : Iteration) (c : Correlator) (ts : UInt64) :
    sheet (c.ipattrTick iter ts) = sheet c := by
  have flushed : ∀ (keys : List StreamKey) (reg : Registry),
      liveFigures (keys.foldl Registry.flushStreamIpattr reg) = liveFigures reg := by
    intro keys
    induction keys with
    | nil => exact fun _ => rfl
    | cons key rest ih => exact fun reg => (ih _).trans (live_flushStreamIpattr reg key)
  have attributed : ∀ c : Correlator, sheet (c.attributeIpStats iter) = sheet c := fun c =>
    sheet_reg c (flushed _ c.reg)
  unfold Correlator.ipattrTick
  dsimp only
  split <;> split
  · exact attributed { c with lastIpattrUs := some ts }
  · exact attributed c
  · rfl
  · rfl

/-! ## Stages that take streams away -/

/-- No stream is new, none has moved. -/
def Fewer (reg after : Registry) : Prop :=
  ∀ k f, liveFigures after k = some f → liveFigures reg k = some f

theorem Fewer.of_eq {reg after : Registry} (same : liveFigures after = liveFigures reg) :
    Fewer reg after := fun k f present => by rwa [same] at present

theorem Fewer.trans {a b c : Registry} (first : Fewer a b) (second : Fewer b c) : Fewer a c :=
  fun k f present => first k f (second k f present)

theorem Fewer.foldl {α : Type} {op : Registry → α → Registry} (one : ∀ reg a, Fewer reg (op reg a))
    (l : List α) (reg : Registry) : Fewer reg (l.foldl op reg) := by
  induction l generalizing reg with
  | nil => exact .of_eq rfl
  | cons a rest ih => exact (one reg a).trans (ih (op reg a))

theorem fewer_erase (reg : Registry) (key : StreamKey) :
    Fewer reg { reg with streams := reg.streams.erase key } := by
  intro k f present
  unfold liveFigures at present
  rw [FiniteMap.lookup_erase_iff] at present
  split at present
  · exact nomatch present
  · exact present

theorem fewer_dropStream (reg : Registry) (key : StreamKey) : Fewer reg (reg.dropStream key) :=
  (Fewer.of_eq (live_flushStreamIpattr reg key)).trans
    (fewer_erase ((reg.flushStreamIpattr key).forgetStream key) key)

theorem fewer_evictStream (reg : Registry) (key : StreamKey) : Fewer reg (reg.evictStream key) :=
  fewer_erase (reg.forgetStream key) key

theorem fewer_dropCall (reg : Registry) (id : String) : Fewer reg (reg.dropCall id) :=
  Fewer.foldl fewer_dropStream (reg.callStreamKeys id)
    { reg with calls := reg.calls.erase id, removed := reg.removed ++ [id]
               streamIndex := reg.streamIndex.erase id }

theorem fewer_removeCalls (reg : Registry) (ids : List String) : Fewer reg (reg.removeCalls ids) :=
  Fewer.foldl fewer_dropCall ids reg

theorem fewer_evictIfNeeded (iter : Iteration) (reg : Registry) :
    Fewer reg (reg.evictIfNeeded iter) := by
  have calls : Fewer reg
      (if reg.maxCalls < reg.calls.size then reg.removeCalls reg.excessCalls else reg) := by
    split
    · exact fewer_removeCalls reg _
    · exact .of_eq rfl
  unfold Registry.evictIfNeeded
  dsimp only
  generalize (if reg.maxCalls < reg.calls.size then _ else reg) = cut at calls ⊢
  split
  · exact calls.trans (Fewer.foldl fewer_evictStream _ cut)
  · exact calls

theorem fewer_evictStale (iter : Iteration) (reg : Registry) (ttlSecs nowUs : UInt64) :
    Fewer reg (reg.evictStale iter ttlSecs nowUs) := by
  unfold Registry.evictStale
  split
  · exact .of_eq rfl
  · exact fewer_removeCalls reg _

theorem drops_reg (c : Correlator) {reg : Registry} (fewer : Fewer c.reg reg) :
    (sheet c).Drops (sheet { c with reg }) := ⟨fewer, rfl, rfl⟩

theorem drops_retireCall (iter : Iteration) (c : Correlator) (id : String) :
    (sheet c).Drops (sheet (c.retireCall iter id)) := by
  unfold Correlator.retireCall
  split
  · next call _ =>
    split
    · refine (Sheet.Drops.of_eq (sheet_reportTeardown c id call)).trans (drops_reg _ ?_)
      split
      · exact fewer_evictIfNeeded iter _
      · exact fewer_removeCalls _ _
    · exact .refl _
  · exact .refl _

theorem sheet_pruneRemovedBookkeeping (c : Correlator) :
    sheet c.pruneRemovedBookkeeping = sheet c := by
  have live : liveFigures c.reg.drainRemoved.2 = liveFigures c.reg := live_of_streams rfl
  exact sheet_reg c live

theorem drops_onCallTerminal (iter : Iteration) (c : Correlator) (id : String) :
    (sheet c).Drops (sheet (c.onCallTerminal iter id)) := by
  have checked := Sheet.Drops.of_eq (blind_sheet.teardownChecks c id)
  have retired := drops_retireCall iter (c.teardownChecks id) id
  unfold Correlator.onCallTerminal
  exact (checked.trans retired).trans (.of_eq (sheet_pruneRemovedBookkeeping _))

/-- Receiving a message leaves the streams alone. -/
theorem sheet_received (c : Correlator) (msg : SipMsg) : sheet (Stages.received c msg) = sheet c := by
  unfold Stages.received
  dsimp only
  rw [blind_sheet.addDiagnostics, sheet_pushEv _ _ rfl, sheet_learnSdp, sheet_storeMessage,
    sheet_observeSip]

theorem drops_ingestSip (iter : Iteration) (c : Correlator) (msg : SipMsg) :
    (sheet c).Drops (sheet (c.ingestSip iter msg)) := by
  rw [Stages.ingestSip_received]
  refine (Sheet.Drops.of_eq (sheet_received c msg)).trans ?_
  generalize Stages.received c msg = r
  unfold Correlator.latchTerminal
  split
  · exact drops_onCallTerminal iter { r with terminalDone := insert msg.callId r.terminalDone } _
  · exact .refl _

end Sipmon.Guarantees.StreamSheet
