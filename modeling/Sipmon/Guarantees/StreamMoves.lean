import Sipmon.Guarantees.IpTraffic
import Sipmon.Guarantees.StreamSheet

/-!
# What a step does to the streams

A packet moves the counters of one stream. The end of a call takes streams away: those of
the call, or those the caps select. A periodic flush that is due writes a snapshot of every
stream before it evicts.
-/
namespace Sipmon.Guarantees.StreamMoves
open Source Lib Correlator Stages StreamSheet
open IpTraffic (cutCalls)
open Evlog (Event)

/-! ## Streams taken away -/

def streamsOf (reg : Registry) (ids : List String) : List StreamKey := ids.flatMap reg.callStreamKeys

/-- What the caps take: the streams of the calls too many, then the oldest streams. -/
def capTaken (iter : Iteration) (reg : Registry) : List StreamKey :=
  (if reg.maxCalls < reg.calls.size then streamsOf reg reg.excessCalls else []) ++
    if (cutCalls reg).maxStreams < (cutCalls reg).streams.size then (cutCalls reg).excessStreams iter else []

/-- What goes with a call that has ended, once its teardown has been checked. -/
def retireTaken (iter : Iteration) (c : Correlator) (id : String) : List StreamKey :=
  match c.reg.calls.lookup id with
  | some call =>
    if call.state.terminal then
      let reg := (c.reportTeardown id call).reg
      if c.keepTerminated then capTaken iter reg else reg.callStreamKeys id
    else []
  | none => []

/-- What goes with a call that a message ends. -/
def sipTaken (iter : Iteration) (c : Correlator) (msg : SipMsg) : List StreamKey :=
  let r := received c msg
  if r.callTerminal msg.callId && decide (msg.callId ∉ r.terminalDone) then
    retireTaken iter
      (({ r with terminalDone := insert msg.callId r.terminalDone } : Correlator).teardownChecks msg.callId) msg.callId
  else []

/-- Only the streams of these keys may change. -/
def Spares (keys : List StreamKey) (reg after : Registry) : Prop :=
  ∀ k, k ∉ keys → liveFigures after k = liveFigures reg k

variable {keys more : List StreamKey} {reg mid after : Registry}

theorem spares_of_eq (same : liveFigures after = liveFigures reg) : Spares keys reg after := fun k _ => by rw [same]

theorem Spares.trans (first : Spares keys reg mid) (second : Spares more mid after) :
    Spares (keys ++ more) reg after := fun k spared => by
  rw [List.mem_append, not_or] at spared
  rw [second k spared.2, first k spared.1]

theorem Spares.behind (same : liveFigures mid = liveFigures reg) (spares : Spares keys mid after) :
    Spares keys reg after := fun k spared => by rw [spares k spared, same]

theorem spares_erase (reg : Registry) (key : StreamKey) :
    Spares [key] reg { reg with streams := reg.streams.erase key } := by
  intro k spared
  unfold liveFigures
  rw [FiniteMap.lookup_erase_iff, if_neg (by simpa using spared)]

theorem spares_evictStream (reg : Registry) (key : StreamKey) : Spares [key] reg (reg.evictStream key) :=
  spares_erase (reg.forgetStream key) key

theorem spares_dropStream (reg : Registry) (key : StreamKey) : Spares [key] reg (reg.dropStream key) :=
  .behind (live_flushStreamIpattr reg key) (spares_erase ((reg.flushStreamIpattr key).forgetStream key) key)

theorem spares_foldl {op : Registry → StreamKey → Registry} (each : ∀ reg key, Spares [key] reg (op reg key))
    (keys : List StreamKey) (reg : Registry) : Spares keys reg (keys.foldl op reg) := by
  induction keys generalizing reg with
  | nil => exact spares_of_eq rfl
  | cons key rest ih => exact (each reg key).trans (ih (op reg key))

theorem spares_dropCall (reg : Registry) (id : String) : Spares (reg.callStreamKeys id) reg (reg.dropCall id) :=
  spares_foldl spares_dropStream (reg.callStreamKeys id)
    { reg with calls := reg.calls.erase id, removed := reg.removed ++ [id], streamIndex := reg.streamIndex.erase id }

/-- A call that goes takes no stream into another call. -/
theorem index_dropStreams (keys : List StreamKey) (reg : Registry) {a : String} {k : StreamKey}
    (listed : k ∈ (keys.foldl Registry.dropStream reg).callStreamKeys a) : k ∈ reg.callStreamKeys a := by
  induction keys generalizing reg with
  | nil => exact listed
  | cons key rest ih =>
    have later := ih (reg.dropStream key) listed
    have flushed : (reg.flushStreamIpattr key).streamIndex = reg.streamIndex := by
      unfold Registry.flushStreamIpattr
      split <;> rfl
    unfold Registry.callStreamKeys Registry.dropStream Registry.forgetStream at later
    dsimp only at later
    rw [flushed] at later
    split at later
    · rw [GroupIndex.members_forget] at later
      split at later
      · next same => exact same ▸ (List.mem_filter.mp later).1
      · exact later
    · exact later

theorem index_dropCall (reg : Registry) (id : String) {a : String} {k : StreamKey}
    (listed : k ∈ (reg.dropCall id).callStreamKeys a) : k ∈ reg.callStreamKeys a := by
  have before := index_dropStreams _ _ listed
  unfold Registry.callStreamKeys at before ⊢
  dsimp only at before
  rw [GroupIndex.members_erase] at before
  split at before
  · cases before
  · exact before

theorem spares_removeCalls (reg : Registry) (ids : List String) :
    Spares (streamsOf reg ids) reg (reg.removeCalls ids) := by
  change Spares (streamsOf reg ids) reg (ids.foldl Registry.dropCall reg)
  induction ids generalizing reg with
  | nil => exact spares_of_eq rfl
  | cons id rest ih =>
    intro k spared
    rw [streamsOf, List.flatMap_cons, List.mem_append, not_or] at spared
    rw [List.foldl_cons, ih (reg.dropCall id) k fun listed => spared.2 ?_]
    · exact spares_dropCall reg id k spared.1
    · obtain ⟨a, member, own⟩ := List.mem_flatMap.mp listed
      exact List.mem_flatMap.mpr ⟨a, member, index_dropCall reg id own⟩

theorem spares_evictIfNeeded (iter : Iteration) (reg : Registry) :
    Spares (capTaken iter reg) reg (reg.evictIfNeeded iter) := by
  have cut : Spares (if reg.maxCalls < reg.calls.size then streamsOf reg reg.excessCalls else []) reg
      (cutCalls reg) := by
    unfold cutCalls
    split
    · exact spares_removeCalls reg _
    · exact spares_of_eq rfl
  refine cut.trans ?_
  have stages : reg.evictIfNeeded iter =
      if (cutCalls reg).maxStreams < (cutCalls reg).streams.size then
        ((cutCalls reg).excessStreams iter).foldl Registry.evictStream (cutCalls reg)
      else cutCalls reg := rfl
  rw [stages]
  split
  · exact spares_foldl spares_evictStream _ _
  · exact spares_of_eq rfl

theorem spares_retireCall (iter : Iteration) (c : Correlator) (id : String) :
    Spares (retireTaken iter c id) c.reg (c.retireCall iter id).reg := by
  unfold retireTaken retireCall
  cases c.reg.calls.lookup id with
  | none => exact spares_of_eq rfl
  | some call =>
    dsimp only
    split
    · have reported : liveFigures (c.reportTeardown id call).reg = liveFigures c.reg :=
        live_of_sheet (sheet_reportTeardown c id call)
      rw [keepTerminated_reportTeardown]
      split
      · exact .behind reported (spares_evictIfNeeded iter _)
      · have alone := spares_removeCalls (c.reportTeardown id call).reg [id]
        rw [streamsOf, List.flatMap_singleton] at alone
        exact .behind reported alone
    · exact spares_of_eq rfl

theorem spares_onCallTerminal (iter : Iteration) (c : Correlator) (id : String) :
    Spares (retireTaken iter (c.teardownChecks id) id) c.reg (c.onCallTerminal iter id).reg := by
  have checked : liveFigures (c.teardownChecks id).reg = liveFigures c.reg :=
    live_of_sheet (blind_sheet.teardownChecks c id)
  have cleaned : liveFigures (c.onCallTerminal iter id).reg =
      liveFigures ((c.teardownChecks id).retireCall iter id).reg :=
    live_of_sheet (sheet_pruneRemovedBookkeeping ((c.teardownChecks id).retireCall iter id))
  intro k spared
  rw [cleaned, ← checked]
  exact spares_retireCall iter (c.teardownChecks id) id k spared

theorem spares_ingestSip (iter : Iteration) (c : Correlator) (msg : SipMsg) :
    Spares (sipTaken iter c msg) c.reg (c.ingestSip iter msg).reg := by
  have heard : liveFigures (received c msg).reg = liveFigures c.reg := live_of_sheet (sheet_received c msg)
  rw [ingestSip_received, sipTaken]
  generalize received c msg = r at heard
  unfold latchTerminal
  split
  · have ended := spares_onCallTerminal iter { r with terminalDone := insert msg.callId r.terminalDone } msg.callId
    exact .behind heard ended
  · exact spares_of_eq heard

/-! ## A packet -/

/-- Every stream is tracked under its own flow and SSRC. -/
def Keyed (s : Sheet) : Prop := ∀ k f, s.live k = some f → f.key = k

/-- The counters of one stream are set. -/
def counted (s : Sheet) (f : Figures) : Sheet := { s with live := Function.update s.live f.key (some f) }

theorem key_applyClockRate (s : RtpStream) (rate : UInt32) :
    (figures (s.applyClockRate rate)).key = (figures s).key := by rw [figures_applyClockRate]

theorem key_observe (s : RtpStream) (ts : UInt64) (header : RtpHeader) (len : Nat) :
    (figures (s.observe ts header len)).key = (figures s).key := by
  unfold RtpStream.observe
  dsimp only
  split
  · unfold RtpStream.applyClockRate
    split <;> rfl
  · rfl

theorem key_openStream (neg : Option NegotiatedMedia) (leg : Option Leg) (encap : Encap) (reverseExists : Bool)
    (ts : UInt64) (header : RtpHeader) (len : Nat) (s : RtpStream) :
    (figures (openStream neg leg encap reverseExists ts header len s)).key = (figures s).key := by
  unfold openStream
  cases neg with
  | none => exact key_observe _ ts header len
  | some n =>
    have clocked : ∀ codec, (figures (({ s with codec } : RtpStream).applyClockRate
        (n.clockRateForPt header.payloadType))).key = (figures s).key := fun codec => key_applyClockRate _ _
    exact (key_observe _ ts header len).trans (clocked _)

theorem sheet_observeExistingRtp (c : Correlator) (keyed : Keyed (sheet c)) (ts : UInt64) (header : RtpHeader)
    (len : Nat) {key : StreamKey} {s : RtpStream} (found : c.reg.streams.lookup key = some s) :
    sheet (c.observeExistingRtp ts header len key s) = counted (sheet c) (figures (s.observe ts header len)) := by
  have own : (figures (s.observe ts header len)).key = key := by
    have live : (sheet c).live key = some (figures s) := by simp only [sheet, liveFigures, found, Option.map_some]
    rw [key_observe, keyed key _ live]
  have moved : liveFigures ((c.reg.updateStream key (·.observe ts header len)).updateCall s.callId (countRtp ts)) =
      Function.update (liveFigures c.reg) key (some (figures (s.observe ts header len))) := by
    funext k
    change ((c.reg.streams.modify key (·.observe ts header len)).lookup k).map figures = _
    rw [FiniteMap.lookup_modify, Function.update_apply]
    split
    · next same => rw [same, found, Option.map_some, Option.map_some]
    · rfl
  unfold observeExistingRtp
  rw [blind_sheet.addDiagnostics, counted, own]
  simp only [sheet, moved]

theorem sheet_openRtp (c : Correlator) (ts : UInt64) (flow : Flow5Tuple) (header : RtpHeader) (len : Nat)
    (encap : Encap) (callId : String) (new : c.reg.streams.lookup { flow, ssrc := header.ssrc } = none) :
    ∃ f, sheet (c.openRtp ts flow header len encap callId) = counted (sheet c) f := by
  unfold openRtp
  dsimp only
  rw [new, Option.getD_none]
  generalize opened : openStream _ _ _ _ ts header len (.new flow header.ssrc callId) = s
  generalize openDiagnostics _ _ _ _ _ ts flow header = diags
  have own : (figures s).key = { flow, ssrc := header.ssrc } := by
    rw [← opened, key_openStream]
    rfl
  refine ⟨figures s, ?_⟩
  generalize listed : Registry.updateCall _ callId (noteMedia flow _) = reg
  have moved : liveFigures reg =
      Function.update (liveFigures c.reg) { flow, ssrc := header.ssrc } (some (figures s)) := by
    rw [← listed]
    funext k
    change ((c.reg.streams.insert { flow, ssrc := header.ssrc } s).lookup k).map figures = _
    rw [FiniteMap.lookup_insert_iff, Function.update_apply]
    split <;> rfl
  have started : sheet { c with reg } = counted (sheet c) (figures s) := by
    rw [counted, own]
    simp only [sheet, moved]
  have reported := (blind_sheet.addDiagnostics { c with reg } diags).trans started
  rw [← reported]
  generalize ({ c with reg } : Correlator).addDiagnostics diags = told
  refine sheet_reg told ?_
  split
  · exact live_updateStream told.reg _ fun _ => rfl
  · rfl

/-- A packet sets the counters of its stream, or belongs to no call. -/
theorem sheet_ingestRtp (c : Correlator) (keyed : Keyed (sheet c)) (ts : UInt64) (flow : Flow5Tuple)
    (header : RtpHeader) (len : Nat) (encap : Encap) :
    sheet (c.ingestRtp ts flow header len encap) = sheet c ∨
      ∃ f, sheet (c.ingestRtp ts flow header len encap) = counted (sheet c) f := by
  unfold ingestRtp
  dsimp only
  cases found : c.reg.streams.lookup { flow, ssrc := header.ssrc } with
  | some s => exact .inr ⟨_, sheet_observeExistingRtp c keyed ts header len found⟩
  | none =>
    cases callOfFlow c.reg flow with
    | some callId => exact .inr (sheet_openRtp c ts flow header len encap callId found)
    | none => exact .inl rfl

/-! ## The periodic flush -/

/-- The stream's snapshot is written, when there is one. -/
theorem sheet_snapStream (ts : UInt64) {c : Correlator} (logging : c.emitEvlog = true) (key : StreamKey) :
    sheet (snapStream ts c key) =
      { sheet c with snaps := (sheet c).snaps ++ ((sheet c).live key).toList } := by
  have sampled : sheet (if c.keepTerminated then
      { c with reg := c.reg.updateStream key (·.sample ts) } else c) = sheet c := by
    split
    · exact sheet_reg c (live_updateStream c.reg key fun s => figures_sample s ts)
    · rfl
  have emits : (if c.keepTerminated then
      { c with reg := c.reg.updateStream key (·.sample ts) } else c).emitEvlog = true := by
    split <;> exact logging
  unfold snapStream
  dsimp only
  rw [← sampled]
  generalize (if c.keepTerminated then _ else c) = r at emits ⊢
  have live : (sheet r).live key = (r.reg.streams.lookup key).map figures := rfl
  rw [live]
  cases r.reg.streams.lookup key with
  | none => simp
  | some s =>
    simp only [emits, Bool.true_or, if_true, Option.map_some, Option.toList_some]
    simp only [sheet, pushEv, emits, if_true, List.filterMap_append, List.filterMap_cons, snapOf_toSnapEvt,
      List.filterMap_nil]

theorem sheet_snapStreams (ts : UInt64) (keys : List StreamKey) {c : Correlator} (logging : c.emitEvlog = true) :
    sheet (keys.foldl (snapStream ts) c) =
      { sheet c with snaps := (sheet c).snaps ++ keys.filterMap (sheet c).live } := by
  induction keys generalizing c with
  | nil => simp
  | cons key rest ih =>
    have one := sheet_snapStream ts logging key
    have still : (snapStream ts c key).emitEvlog = true := (congrArg Sheet.logging one).trans logging
    rw [List.foldl_cons, ih still, one, List.filterMap_cons]
    cases (sheet c).live key <;> simp

theorem drops_evictPass (iter : Iteration) (c : Correlator) (ts : UInt64) :
    (sheet c).Drops (sheet (((c.evictPass iter ts).pruneRemovedBookkeeping).pruneIdleIps ts)) := by
  have matched : Fewer c.reg (if c.reg.searchHint.isSome then c.reg.refreshSearchMatches iter else c.reg) := by
    split
    · unfold Registry.refreshSearchMatches
      split <;> exact .of_eq rfl
    · exact .of_eq rfl
  have evicted : (sheet c).Drops (sheet (c.evictPass iter ts)) :=
    drops_reg c ((matched.trans (fewer_evictStale iter _ c.callTtlSecs ts)).trans (fewer_evictIfNeeded iter _))
  exact evicted.trans (.of_eq (sheet_pruneRemovedBookkeeping (c.evictPass iter ts)))

/-- A flush that is due writes a snapshot of every stream; then streams may leave. -/
theorem sheet_flush_due (iter : Iteration) {c : Correlator} (logging : c.emitEvlog = true) {ts : UInt64}
    (due : tickerDue c.lastFlushUs ts flushPeriodUs = true) : ∃ keys : List StreamKey,
      (∀ k f, (sheet c).live k = some f → k ∈ keys) ∧
      ({ sheet c with snaps := (sheet c).snaps ++ keys.filterMap (sheet c).live } : Sheet).Drops
        (sheet (c.maybePeriodicFlush iter ts)) := by
  rw [← lastFlushUs_ipattrTick iter c ts] at due
  have ticked : sheet (flushed iter c ts) = sheet c := sheet_ipattrTick iter c ts
  have emits : (flushed iter c ts).emitEvlog = true := (congrArg Sheet.logging ticked).trans logging
  rw [maybePeriodicFlush_due iter due]
  unfold snapped
  dsimp only
  generalize flushed iter c ts = t at ticked emits ⊢
  generalize aged : ({ t with
      reg := t.reg.pruneHeatmap, turn := t.turn.prune iter
      tcpReasm := t.tcpReasm.prune ts TcpReassembler.idleUs } : Correlator) = u
  have kept : sheet u = sheet c := by
    rw [← ticked, ← aged]
    refine sheet_reg t (live_of_streams ?_)
    unfold Registry.pruneHeatmap
    split <;> rfl
  have still : u.emitEvlog = true := (congrArg Sheet.logging kept).trans logging
  refine ⟨iter.order u.reg.streams.keys, fun k f tracked => ?_, ?_⟩
  · rw [← kept] at tracked
    obtain ⟨s, found, -⟩ := Option.map_eq_some_iff.mp tracked
    exact (iter.mem_order _ _).mpr (AList.mem_keys.mp (AList.lookup_isSome.mp (Option.isSome_of_eq_some found)))
  · have written : sheet (u.snapStreams iter ts) = _ := sheet_snapStreams ts (iter.order u.reg.streams.keys) still
    rw [kept] at written
    rw [← written]
    exact drops_evictPass iter (u.snapStreams iter ts) ts

theorem sheet_flush_early (iter : Iteration) {c : Correlator} {ts : UInt64}
    (early : ¬ tickerDue c.lastFlushUs ts flushPeriodUs = true) : sheet (c.maybePeriodicFlush iter ts) = sheet c := by
  rw [← lastFlushUs_ipattrTick iter c ts] at early
  unfold maybePeriodicFlush
  simp only [early, Bool.or_false, if_false, Bool.false_eq_true]
  have ticked := sheet_ipattrTick iter c ts
  split
  · exact ticked
  · exact ticked

end Sipmon.Guarantees.StreamMoves
